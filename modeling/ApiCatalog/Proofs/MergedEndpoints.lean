import ApiCatalog.Catalog
import ApiCatalog.Document
import Mathlib.Algebra.Order.Group.Multiset
import Mathlib.Tactic.Abel

/-!
Listing endpoints and merging documents go together: a merge has the endpoints of both documents,
and the category trees of the first one before those of the second.
-/

set_option autoImplicit false

namespace ApiCatalog

namespace Endpoint

/-- An endpoint without its id and its full address, which the rest of the document decides. -/
def content (e : Endpoint) : Endpoint := { e with id := "", fullUrl := none }

theorem number_content (endpoints : List Endpoint) :
    (number endpoints).map content = endpoints.map content := by
  apply List.ext_getElem
  · simp [number]
  · intro i _ _
    simp [number, content]

section Base

-- The base address of a place shows in full addresses only.
variable (place : Place)

theorem ofApi_content (api : Api) :
    (ofApi place api).map content = (ofApi { place with base := none } api).map content := by
  simp only [ofApi, List.map_map]
  rfl

theorem ofBlocks_content (apis : List Api) (sockets eventSockets : List Socket)
    (streams : List EventStream) :
    (ofBlocks place apis sockets eventSockets streams).map content =
      (ofBlocks { place with base := none } apis sockets eventSockets streams).map content := by
  simp only [ofBlocks, List.map_append, List.map_flatMap, List.map_map, ofApi_content place]
  rfl

end Base

mutual
theorem ofCategory_content : (place : Place) → (c : Category) →
    (ofCategory place c).map content = (ofCategory { place with base := none } c).map content
  | place, ⟨_, _, _, _, _, _, _, _, children⟩ => by
    simp only [ofCategory, List.map_append]
    rw [ofBlocks_content, ofCategories_content _ children]
    rfl

theorem ofCategories_content : (place : Place) → (cs : List Category) →
    (ofCategories place cs).map content = (ofCategories { place with base := none } cs).map content
  | _, [] => rfl
  | place, c :: rest => by
    simp only [ofCategories, List.map_append]
    rw [ofCategory_content place c, ofCategories_content place rest]
end

theorem ofCategories_append (place : Place) (left right : List Category) :
    ofCategories place (left ++ right) = ofCategories place left ++ ofCategories place right := by
  induction left with
  | nil => rfl
  | cons c rest ih => rw [List.cons_append, ofCategories, ofCategories, ih, List.append_assoc]

def contents (endpoints : List Endpoint) : Multiset Endpoint := (endpoints.map content : List _)

theorem contents_append (left right : List Endpoint) :
    contents (left ++ right) = contents left + contents right := by
  simp [contents]

-- Blocks of one kind stay together: those of the second document come between those of the first.
theorem contents_ofBlocks_append (place : Place) (apis apis' : List Api)
    (sockets sockets' eventSockets eventSockets' : List Socket)
    (streams streams' : List EventStream) :
    contents (ofBlocks place (apis ++ apis') (sockets ++ sockets') (eventSockets ++ eventSockets')
        (streams ++ streams')) =
      contents (ofBlocks place apis sockets eventSockets streams) +
        contents (ofBlocks place apis' sockets' eventSockets' streams') := by
  simp only [ofBlocks, List.flatMap_append, List.map_append, contents_append]
  abel

end Endpoint

theorem nodes_append (left right : List Category) :
    nodes (left ++ right) = nodes left ++ nodes right := by
  induction left with
  | nil => rfl
  | cons c rest ih => rw [List.cons_append, nodes, nodes, ih, List.cons_append]

namespace Document

theorem contents_endpoints (d : Document) :
    Endpoint.contents d.endpoints =
      Endpoint.contents (Endpoint.ofBlocks { base := none } d.apis d.sockets d.eventSockets
        d.streams) + Endpoint.contents (Endpoint.ofCategories { base := none } d.categories) := by
  simp only [Endpoint.contents, endpoints, Endpoint.number_content, List.map_append,
    Multiset.coe_add]
  rw [Endpoint.ofBlocks_content, Endpoint.ofCategories_content]

/-- The endpoints of a merge are those of the two documents, but for their ids and full addresses,
and its category trees are those of the first document followed by those of the second. -/
theorem merge_projects (a b : Document) :
    Endpoint.contents (a.merge b).endpoints =
      Endpoint.contents a.endpoints + Endpoint.contents b.endpoints ∧
    (a.merge b).categoryTree = a.categoryTree ++ b.categoryTree := by
  constructor
  · simp only [contents_endpoints, merge, Endpoint.contents_ofBlocks_append,
      Endpoint.ofCategories_append, Endpoint.contents_append]
    exact add_add_add_comm _ _ _ _
  · exact nodes_append a.categories b.categories

end Document

end ApiCatalog
