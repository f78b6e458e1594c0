import ApiCatalog.Document

set_option autoImplicit false

namespace ApiCatalog

theorem Config.merge_assoc (a b c : Option Config) :
    Config.merge (Config.merge a b) c = Config.merge a (Config.merge b c) := by
  cases a with
  | none => rfl
  | some a =>
    cases b with
    | none => rfl
    | some b =>
      cases c with
      | none => rfl
      | some c => by_cases empty : a.baseUrls = [] <;> simp [Config.merge, empty]

namespace Config

-- The base addresses of the first config that has any.
def firstBaseUrls (configs : List Config) : List String :=
  ((configs.map baseUrls).find? (!·.isEmpty)).getD []

def combined (configs : List Config) : Option Config :=
  configs.head?.map fun first => { first with baseUrls := firstBaseUrls configs }

theorem firstBaseUrls_cons (c : Config) (configs : List Config) :
    firstBaseUrls (c :: configs) =
      if c.baseUrls.isEmpty then firstBaseUrls configs else c.baseUrls := by
  cases empty : c.baseUrls <;> simp [firstBaseUrls, empty]

theorem firstBaseUrls_concat (configs : List Config) (c : Config) :
    firstBaseUrls (configs ++ [c]) =
      if (firstBaseUrls configs).isEmpty then c.baseUrls else firstBaseUrls configs := by
  induction configs with
  | nil => cases empty : c.baseUrls <;> simp [firstBaseUrls, empty]
  | cons first rest ih =>
    rw [List.cons_append, firstBaseUrls_cons, firstBaseUrls_cons, ih]
    by_cases empty : first.baseUrls.isEmpty <;> simp [empty]

theorem merge_combined (configs : List Config) (other : Option Config) :
    Config.merge (combined configs) other = combined (configs ++ other.toList) := by
  cases other with
  | none =>
    rw [Option.toList_none, List.append_nil]
    cases combined configs <;> rfl
  | some c =>
    cases configs with
    | nil =>
      have own : firstBaseUrls [c] = c.baseUrls := firstBaseUrls_concat [] c
      simp [combined, Config.merge, own]
    | cons first rest =>
      have urls := firstBaseUrls_concat (first :: rest) c
      rw [List.cons_append] at urls
      simp [combined, Config.merge, urls]

theorem combined_eq_none {configs : List Config} : combined configs = none ↔ configs = [] := by
  simp [combined]

end Config

namespace Document

theorem merge_assoc (a b c : Document) : (a.merge b).merge c = a.merge (b.merge c) := by
  simp [merge, Config.merge_assoc, List.append_assoc]

theorem empty_merge (d : Document) (settled : d.imports = []) :
    ({} : Document).merge d = d := by
  obtain ⟨config, imports, apis, sockets, eventSockets, streams, categories⟩ := d
  subst settled
  simp [merge, Config.merge]

theorem empty_merge_iff (d : Document) : ({} : Document).merge d = d ↔ d.imports = [] :=
  ⟨fun same => congrArg Document.imports same.symm, empty_merge d⟩

theorem merge_empty (d : Document) : d.merge {} = d := by
  obtain ⟨config, imports, apis, sockets, eventSockets, streams, categories⟩ := d
  cases config <;> simp [merge, Config.merge]

theorem merge_foldl (a b : Document) (documents : List Document) :
    a.merge (documents.foldl merge b) = documents.foldl merge (a.merge b) := by
  induction documents generalizing b with
  | nil => rfl
  | cons d rest ih =>
    simp only [List.foldl_cons]
    rw [ih (b.merge d), merge_assoc]

theorem foldl_merge_imports (d : Document) (documents : List Document) :
    (documents.foldl merge d).imports = d.imports := by
  induction documents generalizing d with
  | nil => rfl
  | cons other rest ih => exact ih (d.merge other)

theorem foldl_merge_part {A : Type} (part : Document → List A)
    (additive : ∀ a b : Document, part (a.merge b) = part a ++ part b)
    (d : Document) (documents : List Document) :
    part (documents.foldl merge d) = part d ++ documents.flatMap part := by
  induction documents generalizing d with
  | nil => simp
  | cons other rest ih =>
    simp only [List.foldl_cons, List.flatMap_cons]
    rw [ih (d.merge other), additive, List.append_assoc]

theorem foldl_merge_config {d : Document} {configs : List Config}
    (holds : d.config = Config.combined configs) (documents : List Document) :
    (documents.foldl merge d).config =
      Config.combined (configs ++ documents.filterMap Document.config) := by
  induction documents generalizing d configs with
  | nil => simpa using holds
  | cons other rest ih =>
    have next : (d.merge other).config = Config.combined (configs ++ other.config.toList) := by
      rw [← Config.merge_combined, ← holds]
      rfl
    have split : configs ++ (other :: rest).filterMap Document.config =
        configs ++ other.config.toList ++ rest.filterMap Document.config := by
      cases given : other.config <;> simp [given]
    rw [List.foldl_cons, ih next, split]

theorem foldl_merge_groups (d : Document) (groups : List (List Document)) :
    (groups.map (List.foldl merge {})).foldl merge d = groups.flatten.foldl merge d := by
  induction groups generalizing d with
  | nil => rfl
  | cons group rest ih =>
    simp only [List.map_cons, List.foldl_cons, List.flatten_cons, List.foldl_append]
    rw [ih, merge_foldl, merge_empty]

/-- Documents can be merged in any grouping. What they come to is read off them in order: the first
config with the first base addresses that are given, and all blocks. -/
theorem merge_grouping :
    (∀ a b c : Document, (a.merge b).merge c = a.merge (b.merge c)) ∧
    (∀ d : Document, d.merge {} = d) ∧
    (∀ d : Document, ({} : Document).merge d = d ↔ d.imports = []) ∧
    (∀ groups : List (List Document),
      (groups.map (List.foldl merge {})).foldl merge {} = groups.flatten.foldl merge {}) ∧
    ∀ documents : List Document,
      let whole := documents.foldl merge {}
      (whole.config = none ↔ ∀ d ∈ documents, d.config = none) ∧
      whole.config = Config.combined (documents.filterMap Document.config) ∧
      whole.imports = [] ∧
      whole.apis = documents.flatMap Document.apis ∧
      whole.sockets = documents.flatMap Document.sockets ∧
      whole.eventSockets = documents.flatMap Document.eventSockets ∧
      whole.streams = documents.flatMap Document.streams ∧
      whole.categories = documents.flatMap Document.categories := by
  refine ⟨merge_assoc, merge_empty, empty_merge_iff, foldl_merge_groups {}, fun documents => ?_⟩
  have config : (documents.foldl merge {}).config =
      Config.combined (documents.filterMap Document.config) :=
    foldl_merge_config (show Document.config {} = Config.combined [] from rfl) documents
  have part {A : Type} (list : Document → List A) (none : list {} = [])
      (additive : ∀ a b : Document, list (a.merge b) = list a ++ list b) :
      list (documents.foldl merge {}) = documents.flatMap list := by
    rw [foldl_merge_part list additive, none, List.nil_append]
  refine ⟨?_, config, foldl_merge_imports {} documents, part _ rfl fun _ _ => rfl,
    part _ rfl fun _ _ => rfl, part _ rfl fun _ _ => rfl, part _ rfl fun _ _ => rfl,
    part _ rfl fun _ _ => rfl⟩
  rw [config, Config.combined_eq_none, List.filterMap_eq_nil_iff]

end Document

end ApiCatalog
