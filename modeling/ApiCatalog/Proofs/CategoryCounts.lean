import ApiCatalog.Catalog
import ApiCatalog.Proofs.Endpoints
import Mathlib.Algebra.GroupWithZero.Nat

/-!
The list of endpoints and the tree of categories are computed apart from each other. They agree:
after the endpoints outside of categories come those of each node, as many as it counts.
-/

set_option autoImplicit false

namespace ApiCatalog

mutual
def CategoryNode.preorder : CategoryNode → List CategoryNode
  | node@⟨_, _, _, _, children⟩ => node :: nodePreorders children

def nodePreorders : List CategoryNode → List CategoryNode
  | [] => []
  | node :: rest => node.preorder ++ nodePreorders rest
end

mutual
theorem Category.node_preorder : (c : Category) → c.node.preorder = c.preorder.map Category.node
  | ⟨_, _, _, _, _, _, _, _, children⟩ => by
    simp only [Category.node, CategoryNode.preorder, Category.preorder, List.map_cons]
    rw [nodes_preorders children]

theorem nodes_preorders : (cs : List Category) →
    nodePreorders (nodes cs) = (preorders cs).map Category.node
  | [] => rfl
  | c :: rest => by
    rw [nodes, nodePreorders, preorders, c.node_preorder, nodes_preorders rest, List.map_append]
end

section Nodes

variable (c : Category)

theorem Category.node_id : c.node.id = c.id := by
  cases c
  rfl

theorem Category.node_name : c.node.name = c.name := by
  cases c
  rfl

theorem Category.node_endpointCount : c.node.endpointCount = c.services.each.length := by
  cases c
  simp [Category.node, endpointCount, Category.services, Services.each, List.length_flatMap,
    Nat.add_assoc]

end Nodes

theorem forall₂_flatMap_split {A B C : Type} {R : B → C → Prop} {f : A → List B} {items : List A}
    {ys : List C} (related : List.Forall₂ R (items.flatMap f) ys) :
    ∃ segments : List (List C), ys = segments.flatten ∧
      List.Forall₂ (fun a segment => List.Forall₂ R (f a) segment) items segments := by
  induction items generalizing ys with
  | nil =>
    cases related
    exact ⟨[], rfl, .nil⟩
  | cons a rest ih =>
    rw [List.flatMap_cons] at related
    have first := List.forall₂_take_append _ _ _ related.flip
    have later := List.forall₂_drop_append _ _ _ related.flip
    obtain ⟨segments, whole, others⟩ := ih later.flip
    refine ⟨ys.take (f a).length :: segments, ?_, .cons first.flip others⟩
    rw [List.flatten_cons, ← whole, List.take_append_drop]

theorem Document.endpoints_split (d : Document) :
    ∃ base outside segments, d.endpoints = outside ++ segments.flatten ∧
      List.Forall₂ (Endpoint.Describes base) (d.services.each.map (.mk [])) outside ∧
      List.Forall₂ (fun (around, c) segment => List.Forall₂ (Endpoint.Describes base)
        (c.services.each.map (.mk (around ++ [c]))) segment) (lineages d.categories) segments := by
  let base := d.baseUrls.head?.map Endpoint.trimSlashes
  have described : List.Forall₂ (Endpoint.Describes base) d.holdings d.endpoints := by
    have unnumbered := d.endpoints_numbered.imp fun _ _ numbered => numbered.2
    rwa [← List.forall₂_map_left_iff, List.zipIdx_map_fst] at unnumbered
  have first := List.forall₂_take_append _ _ _ described.flip
  have later := List.forall₂_drop_append _ _ _ described.flip
  obtain ⟨segments, whole, inside⟩ := forall₂_flatMap_split later.flip
  exact ⟨base, _, segments, by rw [← whole, List.take_append_drop], first.flip, inside⟩

theorem Endpoint.describes_category {base : Option String} {lineage : List Category}
    {services : List Service} {segment : List Endpoint}
    (described : List.Forall₂ (Describes base) (services.map (.mk lineage)) segment) :
    ∀ e ∈ segment, e.categoryId = lineage.getLast?.map (·.id) ∧
      e.categoryName = lineage.getLast?.bind (·.name) := by
  rw [List.forall₂_map_left_iff] at described
  induction described with
  | nil => simp
  | cons head _ ih => exact List.forall_mem_cons.2 ⟨⟨head.categoryId, head.categoryName⟩, ih⟩

/-- Some endpoints are those that a node counts. -/
structure CategoryNode.Counts (node : CategoryNode) (segment : List Endpoint) : Prop where
  length : segment.length = node.endpointCount
  category : ∀ e ∈ segment, e.categoryId = some node.id ∧ e.categoryName = node.name

theorem Category.node_counts {base : Option String} {around : List Category} {c : Category}
    {segment : List Endpoint} (described : List.Forall₂ (Endpoint.Describes base)
      (c.services.each.map (.mk (around ++ [c]))) segment) : c.node.Counts segment where
  length := by rw [c.node_endpointCount, ← described.length_eq, List.length_map]
  category := by
    rw [c.node_id, c.node_name]
    simpa using Endpoint.describes_category described

theorem CategoryNode.length_flatten_of_counts {nodes : List CategoryNode}
    {segments : List (List Endpoint)} (counts : List.Forall₂ CategoryNode.Counts nodes segments) :
    segments.flatten.length = (nodes.map (·.endpointCount)).sum := by
  induction counts with
  | nil => rfl
  | cons head _ ih => simp [head.length, ih]

/-- After the endpoints outside of categories come those of each node of the tree in pre-order, as
many as the node counts. -/
theorem Document.endpoints_follow_categoryTree (d : Document) :
    let outside := d.services.each.length
    (∀ e ∈ d.endpoints.take outside, e.categoryId = none ∧ e.categoryName = none) ∧
    (∃ segments, d.endpoints.drop outside = segments.flatten ∧
      List.Forall₂ CategoryNode.Counts (nodePreorders d.categoryTree) segments) ∧
    d.endpoints.length =
      outside + ((nodePreorders d.categoryTree).map (·.endpointCount)).sum := by
  intro outside
  obtain ⟨base, before, segments, whole, first, each⟩ := d.endpoints_split
  have length : before.length = outside := by rw [← first.length_eq, List.length_map]
  have counts : List.Forall₂ CategoryNode.Counts (nodePreorders d.categoryTree) segments := by
    rw [Document.categoryTree, nodes_preorders, ← lineages_preorders, List.map_map,
      List.forall₂_map_left_iff]
    exact each.imp fun _ _ described => Category.node_counts described
  refine ⟨?_, ⟨segments, ?_, counts⟩, ?_⟩
  · rw [whole, List.take_left' length]
    simpa using Endpoint.describes_category first
  · rw [whole, List.drop_left' length]
  · rw [whole, List.length_append, length, CategoryNode.length_flatten_of_counts counts]

end ApiCatalog
