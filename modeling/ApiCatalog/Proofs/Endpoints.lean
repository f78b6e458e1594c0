import ApiCatalog.Catalog
import ApiCatalog.Proofs.Printer
import Mathlib.Data.List.Forall2
import Mathlib.Data.List.Nodup

/-!
Which endpoints a document has, in which order, and what each of them says about the place where
its service is held.
-/

set_option autoImplicit false

namespace ApiCatalog

inductive Service
  | method (path : String) (m : Method)
  | socket (s : Socket)
  | eventSocket (s : Socket)
  | stream (s : EventStream)

def Services.each (s : Services) : List Service :=
  s.apis.flatMap (fun api => api.methods.map (.method api.path)) ++ s.sockets.map .socket ++
    s.eventSockets.map .eventSocket ++ s.streams.map .stream

mutual
def Category.lineages : Category → List (List Category × Category)
  | c@⟨_, _, _, _, _, _, _, _, children⟩ =>
    ([], c) :: (lineages children).map fun (around, inner) => (c :: around, inner)

def lineages : List Category → List (List Category × Category)
  | [] => []
  | c :: rest => c.lineages ++ lineages rest
end

/-- A service and the categories around it, outermost first. -/
structure Holding where
  lineage : List Category
  service : Service

def Document.holdings (d : Document) : List Holding :=
  d.services.each.map (Holding.mk []) ++
    (lineages d.categories).flatMap fun (around, c) => c.services.each.map (.mk (around ++ [c]))

namespace Service

def kind : Service → EndpointKind
  | method .. => .http
  | socket _ => .websocket
  | eventSocket _ => .socketio
  | stream _ => .sse

def idStart : Service → String
  | method .. => "api-"
  | socket _ => "ws-"
  | eventSocket _ => "sio-"
  | stream _ => "sse-"

theorem label_kind (s : Service) : s.kind.label ++ "-" = s.idStart := by cases s <;> rfl

def basePath (lineage : List Category) : String :=
  String.join (lineage.map fun c => c.basePath.getD "")

def path (lineage : List Category) : Service → String
  | method path _ => basePath lineage ++ path
  | socket s | eventSocket s => s.url
  | stream s => basePath lineage ++ s.path

def fullUrl (base : Option String) (lineage : List Category) : Service → Option String
  | method path _ => base.map fun url => url ++ (basePath lineage ++ path)
  | socket s | eventSocket s => some s.url
  | stream s => base.map fun url => url ++ (basePath lineage ++ s.path)

end Service

namespace Endpoint

-- An endpoint shows all that is said about a service.
def Shows (e : Endpoint) : Service → Prop
  | .method _ m => e.method = some m.verb ∧ e.name = m.name ∧ e.description = m.description ∧
      e.request = m.request ∧ e.response = m.response
  | .socket s => e.name = s.name ∧ e.description = s.description ∧ e.events = some s.events ∧
      e.auth = none ∧ e.connectHeaders = none
  | .eventSocket s => e.name = s.name ∧ e.description = s.description ∧
      e.events = some s.events ∧ e.auth = s.auth ∧ e.connectHeaders = s.connectHeaders
  | .stream s => e.method = some "SSE" ∧ e.name = s.name ∧ e.description = s.description ∧
      e.request = s.request ∧ e.streamEvents = some s.events

/-- An endpoint says of the service that is held somewhere what it is and where it is, with the
base address in front of the path. -/
structure Describes (base : Option String) (h : Holding) (e : Endpoint) : Prop where
  kind : e.kind = h.service.kind
  path : e.path = h.service.path h.lineage
  fullUrl : e.fullUrl = h.service.fullUrl base h.lineage
  categoryId : e.categoryId = h.lineage.getLast?.map (·.id)
  categoryName : e.categoryName = h.lineage.getLast?.bind (·.name)
  shows : e.Shows h.service

def Place.within (base : Option String) (lineage : List Category) : Place where
  base := base
  path := Service.basePath lineage
  categoryId := lineage.getLast?.map (·.id)
  categoryName := lineage.getLast?.bind (·.name)

theorem Place.within_inside (base : Option String) (lineage : List Category) (c : Category) :
    (within base lineage).inside c = within base (lineage ++ [c]) := by
  simp [within, inside, Service.basePath]

theorem describes_each {A : Type} {base : Option String} {holding : A → Holding}
    {endpoint : A → Endpoint} (each : ∀ a, Describes base (holding a) (endpoint a))
    (items : List A) : List.Forall₂ (Describes base) (items.map holding) (items.map endpoint) :=
  List.forall₂_map_left_iff.2 (List.forall₂_map_right_iff.2 (List.forall₂_same.2 fun a _ => each a))

variable (base : Option String) (lineage : List Category)

theorem ofApi_describes (api : Api) :
    List.Forall₂ (Describes base) ((api.methods.map (.method api.path)).map (.mk lineage))
      (ofApi (.within base lineage) api) := by
  rw [List.map_map]
  refine describes_each (fun m => ?_) api.methods
  exact ⟨rfl, rfl, rfl, rfl, rfl, rfl, rfl, rfl, rfl, rfl⟩

theorem ofSocket_describes (s : Socket) :
    Describes base ⟨lineage, .socket s⟩ (ofSocket (.within base lineage) s) :=
  ⟨rfl, rfl, rfl, rfl, rfl, rfl, rfl, rfl, rfl, rfl⟩

theorem ofEventSocket_describes (s : Socket) :
    Describes base ⟨lineage, .eventSocket s⟩ (ofEventSocket (.within base lineage) s) :=
  ⟨rfl, rfl, rfl, rfl, rfl, rfl, rfl, rfl, rfl, rfl⟩

theorem ofStream_describes (s : EventStream) :
    Describes base ⟨lineage, .stream s⟩ (ofStream (.within base lineage) s) :=
  ⟨rfl, rfl, rfl, rfl, rfl, rfl, rfl, rfl, rfl, rfl⟩

theorem ofBlocks_describes (s : Services) :
    List.Forall₂ (Describes base) (s.each.map (.mk lineage))
      (ofBlocks (.within base lineage) s.apis s.sockets s.eventSockets s.streams) := by
  have apis : List.Forall₂ (Describes base)
      (s.apis.flatMap fun api => (api.methods.map (.method api.path)).map (.mk lineage))
      (s.apis.flatMap (ofApi (.within base lineage))) :=
    List.rel_flatMap (List.forall₂_same.2 fun api _ => rfl)
      fun api _ same => same ▸ ofApi_describes base lineage api
  simp only [Services.each, ofBlocks, List.map_append, List.map_flatMap, List.map_map] at apis ⊢
  refine List.rel_append (List.rel_append (List.rel_append apis ?_) ?_) ?_
  · exact describes_each (ofSocket_describes base lineage) s.sockets
  · exact describes_each (ofEventSocket_describes base lineage) s.eventSockets
  · exact describes_each (ofStream_describes base lineage) s.streams

-- By recursion over the trees. The place of a category is that of its parent, which the categories
-- around it make up.
mutual
theorem ofCategory_describes : (c : Category) → (outer : List Category) →
    List.Forall₂ (Describes base)
      (c.lineages.flatMap fun (around, inner) =>
        inner.services.each.map (.mk (outer ++ (around ++ [inner]))))
      (ofCategory (.within base outer) c)
  | ⟨id, name, description, basePath, apis, sockets, eventSockets, streams, children⟩ => by
    intro outer
    let c : Category :=
      ⟨id, name, description, basePath, apis, sockets, eventSockets, streams, children⟩
    have own := ofBlocks_describes base (outer ++ [c]) c.services
    have nested := ofCategories_describes children (outer ++ [c])
    simp only [List.append_assoc, List.singleton_append] at nested
    have inside : (Place.within base outer).inside { id, name, description, basePath } =
        .within base (outer ++ [c]) := Place.within_inside base outer c
    simp only [Category.lineages, ofCategory, List.flatMap_cons, List.flatMap_map, inside]
    exact List.rel_append own nested

theorem ofCategories_describes : (cs : List Category) → (outer : List Category) →
    List.Forall₂ (Describes base)
      ((lineages cs).flatMap fun (around, inner) =>
        inner.services.each.map (.mk (outer ++ (around ++ [inner]))))
      (ofCategories (.within base outer) cs)
  | [], _ => .nil
  | c :: rest, outer => by
    simp only [lineages, ofCategories, List.flatMap_append]
    exact List.rel_append (ofCategory_describes c outer)
      (ofCategories_describes rest outer)
end

theorem Describes.numbered {base : Option String} {h : Holding} {e : Endpoint}
    (describes : Describes base h e) (id : String) : Describes base h { e with id } := by
  obtain ⟨kind, path, fullUrl, categoryId, categoryName, shows⟩ := describes
  refine ⟨kind, path, fullUrl, categoryId, categoryName, ?_⟩
  cases service : h.service <;> rw [service] at shows <;> exact shows

theorem number_describes {base : Option String} {holdings : List Holding}
    {endpoints : List Endpoint} (describe : List.Forall₂ (Describes base) holdings endpoints) :
    List.Forall₂ (fun (h, i) e => e.id = h.service.idStart ++ toString i ∧ Describes base h e)
      (holdings.zipIdx 1) (number endpoints) := by
  obtain ⟨sameLength, describe⟩ := List.forall₂_iff_get.1 describe
  refine List.forall₂_iff_get.2 ⟨by simpa [number] using sameLength, fun i held listed => ?_⟩
  simp only [List.length_zipIdx] at held
  have described := describe i held (sameLength ▸ held)
  simp only [List.get_eq_getElem] at described
  simp only [number, List.get_eq_getElem, List.getElem_zipIdx, List.getElem_mapIdx]
  refine ⟨?_, described.numbered _⟩
  rw [← Service.label_kind, described.kind, Nat.add_comm]
  rfl

def digitsOfId (id : String) : List Char := (id.toList.reverse.takeWhile (· != '-')).reverse

theorem digitsOfId_numbered (label : String) (n : Nat) :
    digitsOfId s!"{label}-{n}" = Nat.toDigits 10 n := by
  have spelled : s!"{label}-{n}".toList = label.toList ++ '-' :: Nat.toDigits 10 n := by
    simp [toString]
  rw [digitsOfId, spelled]
  simp [List.takeWhile_append_of_pos (toDigits_ne_dash n)]

theorem number_ids_nodup (endpoints : List Endpoint) :
    ((number endpoints).map (·.id)).Nodup := by
  rw [List.nodup_iff_injective_getElem]
  intro i j same
  simp only [number, List.getElem_map, List.getElem_mapIdx] at same
  have digits := congrArg digitsOfId same
  rw [digitsOfId_numbered, digitsOfId_numbered] at digits
  have numbers : (i + 1 : Nat) = j + 1 := by
    rw [← Nat.ofDigitChars_ten_toDigits (n := i + 1), digits, Nat.ofDigitChars_ten_toDigits]
  exact Fin.ext (Nat.succ.inj numbers)

def IsTrimmed (url trimmed : String) : Prop :=
  (∃ n, url.toList = trimmed.toList ++ List.replicate n '/') ∧ trimmed.toList.getLast? ≠ some '/'

theorem isTrimmed_trimSlashes (url : String) : IsTrimmed url (trimSlashes url) := by
  let reversed := url.toList.reverse
  have slashes : reversed.takeWhile (· == '/') =
      List.replicate (reversed.takeWhile (· == '/')).length '/' :=
    List.eq_replicate_of_mem fun c found => by simpa using List.mem_takeWhile_imp found
  constructor
  · refine ⟨(reversed.takeWhile (· == '/')).length, ?_⟩
    have whole := congrArg List.reverse
      (List.takeWhile_append_dropWhile (p := (· == '/')) (l := reversed))
    rw [List.reverse_append, slashes, List.reverse_replicate] at whole
    simpa [trimSlashes, reversed] using whole.symm
  · intro ends
    have first : (reversed.dropWhile (· == '/')).head? = some '/' := by
      simpa [trimSlashes, reversed] using ends
    have := List.head?_dropWhile_not (· == '/') reversed
    rw [first] at this
    simp at this

end Endpoint

theorem Document.endpoints_numbered (d : Document) :
    List.Forall₂ (fun (h, i) e => e.id = h.service.idStart ++ toString i ∧
        Endpoint.Describes (d.baseUrls.head?.map Endpoint.trimSlashes) h e)
      (d.holdings.zipIdx 1) d.endpoints := by
  let base := d.baseUrls.head?.map Endpoint.trimSlashes
  have outside := Endpoint.ofBlocks_describes base [] d.services
  have inside := Endpoint.ofCategories_describes base d.categories []
  exact Endpoint.number_describes (List.rel_append outside inside)

mutual
theorem Category.lineages_preorder : (c : Category) →
    c.lineages.map Prod.snd = c.preorder
  | ⟨_, _, _, _, _, _, _, _, children⟩ => by
    simp only [Category.lineages, Category.preorder, List.map_cons, List.map_map]
    exact congrArg _ (lineages_preorders children)

theorem lineages_preorders : (cs : List Category) → (lineages cs).map Prod.snd = preorders cs
  | [] => rfl
  | c :: rest => by
    rw [lineages, preorders, List.map_append, c.lineages_preorder, lineages_preorders rest]
end

def IsBase (config : Option Config) (base : Option String) : Prop :=
  Option.Rel Endpoint.IsTrimmed (config.bind fun c => c.baseUrls.head?) base

theorem Document.isBase (d : Document) :
    IsBase d.config (d.baseUrls.head?.map Endpoint.trimSlashes) := by
  have first : d.baseUrls.head? = d.config.bind fun c => c.baseUrls.head? := by
    cases configured : d.config <;> simp [baseUrls, configured]
  rw [IsBase, ← first]
  cases d.baseUrls.head? with
  | none => exact .none
  | some url => exact .some (Endpoint.isTrimmed_trimSlashes url)

/-- The endpoints follow the services of a document: first those outside of categories, then those
of each category in pre-order. Ids count through all of them, paths start with the base paths of
the categories around the service, and full addresses with the first base address. -/
theorem Document.endpoints_describe (d : Document) :
    (∃ base, IsBase d.config base ∧
      List.Forall₂ (fun (h, i) e => e.id = h.service.idStart ++ toString i ∧
        Endpoint.Describes base h e) (d.holdings.zipIdx 1) d.endpoints) ∧
    (d.endpoints.map (·.id)).Nodup ∧
    (lineages d.categories).map Prod.snd = preorders d.categories :=
  ⟨⟨_, d.isBase, d.endpoints_numbered⟩, Endpoint.number_ids_nodup _, lineages_preorders _⟩

-- A method inside of two categories, between a connection and a stream.
def nestedDocument : Document where
  config := some { baseUrls := ["http://h/v//", "http://other"] }
  sockets := [{ url := "ws://h" }]
  categories := [{
    id := "cat-a-1", basePath := some "/a", streams := [{ path := "/s" }]
    children := [{ id := "cat-b-2", apis := [{ path := "/x", methods := [{ verb := "GET" }] }] }] }]

theorem Document.endpoints_describe_nested :
    (∃ base, IsBase (some { baseUrls := ["http://h/v//", "http://other"] }) base ∧
      List.Forall₂ (fun (h, i) e => e.id = h.service.idStart ++ toString i ∧
        Endpoint.Describes base h e) (nestedDocument.holdings.zipIdx 1) nestedDocument.endpoints) ∧
    nestedDocument.endpoints.map (fun e => (e.id, e.path, e.fullUrl)) =
      [("ws-1", "ws://h", some "ws://h"), ("sse-2", "/a/s", some "http://h/v/a/s"),
        ("api-3", "/a/x", some "http://h/v/a/x")] :=
  ⟨nestedDocument.endpoints_describe.1, by decide +kernel⟩

end ApiCatalog
