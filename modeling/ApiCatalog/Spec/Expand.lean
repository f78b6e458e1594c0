import ApiCatalog.Spec.Pointer

set_option autoImplicit false

namespace ApiCatalog.Spec

def reference? (entries : Entries) : Option String :=
  match Entries.get? "$ref" entries with
  | some (.scalar (.text reference)) => some reference
  | _ => none

mutual
def references : Value → List String
  | .scalar _ | .tuple _ | .set _ | .again _ _ => []
  | .list items => itemReferences items
  | .mapping entries => (reference? entries).toList ++ entryReferences entries

def itemReferences : List Value → List String
  | [] => []
  | item :: rest => references item ++ itemReferences rest

def entryReferences : Entries → List String
  | [] => []
  | (_, value) :: rest => references value ++ entryReferences rest
end

theorem length_filter_lt {reference : String} {fresh : List String} (h : reference ∈ fresh) :
    (fresh.filter (· != reference)).length < fresh.length :=
  List.length_filter_lt_length_iff_exists.2 ⟨reference, h, by simp⟩

-- Each reference is expanded at most once along a branch: `fresh` lists those that have not been.
-- Only mappings and lists are looked into; one that contains itself has no end.
mutual
def expand (root : Value) (fresh : List String) (value : Value) : Except SpecFailure Value :=
  match value with
  | .scalar s => .ok (.scalar s)
  | .tuple items => .ok (.tuple items)
  | .set items => .ok (.set items)
  | .again _ _ => .error (.crashed .endless)
  | .list items => do return .list (← expandItems root fresh items)
  | .mapping entries =>
    match reference? entries with
    | some reference =>
      if isInternal reference then
        if h : reference ∈ fresh then do
          have := length_filter_lt h
          expand root (fresh.filter (· != reference)) (← lookup root reference)
        else .ok (.mapping entries)
      else .ok (.mapping entries)
    | none => do return .mapping (← expandEntries root fresh entries)
termination_by (fresh.length, sizeOf value)

def expandItems (root : Value) (fresh : List String) (items : List Value) :
    Except SpecFailure (List Value) :=
  match items with
  | [] => .ok []
  | item :: rest => do
    let first ← expand root fresh item
    return first :: (← expandItems root fresh rest)
termination_by (fresh.length, sizeOf items)

def expandEntries (root : Value) (fresh : List String) (entries : Entries) :
    Except SpecFailure Entries :=
  match entries with
  | [] => .ok []
  | (key, value) :: rest => do
    let first ← expand root fresh value
    return (key, first) :: (← expandEntries root fresh rest)
termination_by (fresh.length, sizeOf entries)
end

/-- The value with every internal reference replaced by what it refers to. References that are
being expanded further up, and external ones, are left in place. -/
def inlined (root : Value) : Except SpecFailure Value := expand root (references root) root

end ApiCatalog.Spec
