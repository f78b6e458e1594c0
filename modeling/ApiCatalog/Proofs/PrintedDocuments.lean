import ApiCatalog.Proofs.CategoryReadings
import ApiCatalog.Proofs.ConfigReadings

/-!
Main statement: reading recovers every document from its written form, if it has one.
-/

set_option autoImplicit false

namespace ApiCatalog

open DocumentReader

def DocumentReader.outside (d : Document) (next : Nat) : DocumentReader :=
  ⟨d, [], next, none, .entries⟩

theorem IsBare.unquote {reference : String} (bare : IsBare reference) :
    unquote reference = reference := by
  obtain ⟨first, last⟩ := bare
  have dropsNone {cs : List Char} (head : ∀ c ∈ cs.head?, isQuote c = false) :
      cs.dropWhile isQuote = cs := by
    cases cs with
    | nil => rfl
    | cons c rest => simp [head c rfl]
  have fromEnd : ∀ c ∈ reference.toList.reverse.head?, isQuote c = false := by simpa using last
  simp [DocumentReader.unquote, dropsNone first, dropsNone fromEnd]

theorem reads_import (d : Document) (n : Nat) {reference : String}
    (quotable : isQuotable reference) (bare : IsBare reference) :
    Reads Anything (outside d n) (importPieces reference)
      (outside { d with imports := d.imports ++ [reference] } n) := by
  have stated : Reads Anything ((outside d n).holding none) [.word "import"]
      ((outside d n).enter .importReference) :=
    reads_statement _ (by decide) (by simp [place?, documentPlace?, holding, outside])
  have referred : Reads Anything ((outside d n).enter .importReference) [.quoted reference]
      (outside { d with imports := d.imports ++ [reference] } n) := by
    refine .step quotable fun last line => ?_
    change Except.ok ((outside d n).addImport (unquote reference)).between = _
    rw [bare.unquote]
    rfl
  exact stated.andThen referred

theorem collects_outside (config : Option Config) (imports : List String) (n : Nat) :
    Collects fun e =>
      outside ⟨config, imports, e.apis, e.sockets, e.eventSockets, e.streams, []⟩ n where
  between _ := rfl
  addApi _ _ := rfl
  addSocket _ _ := rfl
  addEventSocket _ _ := rfl
  addStream _ _ := rfl

theorem nests_outside (d : Document) :
    Nests fun categories n => outside { d with categories } n where
  between _ _ := rfl
  nextId _ _ := rfl
  close _ _ _ _ := rfl

theorem Document.Expressible.reads {d : Document} (expressible : d.Expressible) :
    Reads Anything start d.pieces (outside d (1 + (preorders d.categories).length)) := by
  obtain ⟨configs, references, endpoints, categories, numbered⟩ := expressible
  obtain ⟨config, imports, apis, sockets, eventSockets, streams, cs⟩ := d
  have configured : Reads Anything start (config.elim [] Config.pieces) (outside { config } 1) :=
    .option (fun config => outside { config } 1) config
      fun c isConfig => (configs c isConfig).reads (outside {} 1) rfl
  have imported : Reads Anything (outside { config } 1) (imports.flatMap importPieces)
      (outside { config, imports } 1) :=
    .flatMap (fun imports => outside { config, imports } 1) (fun _ _ _ => trivial)
      fun before reference found =>
        reads_import { config, imports := before } 1 (references reference found).1
          (references reference found).2
  have offered := endpoints.reads (collects_outside config imports 1)
  have nested := reads_categories cs _
    (nests_outside ⟨config, imports, apis, sockets, eventSockets, streams, []⟩) [] 1 categories
    numbered
  exact ((configured.andThen imported).andThen offered).andThen nested

theorem Document.ofText_print {d : Document} (expressible : d.Expressible) :
    Document.ofText d.print = .ok d := by
  have reads := expressible.reads
  have tokens : (TokenStream.ofText d.print).tokens = tokensFrom 1 d.pieces := by
    rw [TokenStream.ofText, print, spell, String.toList_ofList]
    exact scanFrom_spell reads.scannable 1
  have run := reads.read ⟨1, 1⟩ [] trivial
  rw [List.append_nil, DocumentReader.read, ← tokens] at run
  rw [ofText, ofTokens, run]
  rfl

namespace Telling

-- Texts that look like keywords, marks and comments, in places where they can stand.
def edge : Field :=
  { name := "mock", type := .number, optional := true, mock := some (.text "1\n2"),
    comment := some "\"@\" // ?", isParameter := true }

def point : Field :=
  { name := "point", type := .object, optional := true, nested := some ⟨[edge], true⟩,
    sample := some (.bool true) }

def config : Config where
  baseUrls := ["http://a", "it's"]
  vars := [{ name := "default" }]
  headers := [{ name := "@", default := some "\x7d" }]

def method : Method where
  verb := "GET"
  description := some "* / **"
  request := some ⟨[point, edge], true⟩
  response := some ⟨[], false⟩

def socket : Socket where
  url := "ws"
  description := some ""
  auth := some ⟨[edge], false⟩
  events := [{ name := "?" }]

def inner : Category := { id := "cat--2", sockets := [socket] }

def outer : Category := { id := "cat-a-b-1", basePath := some "\"", children := [inner] }

def document : Document where
  config := some config
  imports := ["import"]
  apis := [{ path := "\x7b", methods := [method] }]
  categories := [outer, { id := "cat-\"-3" }]

theorem edge_expressible : edge.Expressible := by
  refine .intro (by decide +kernel) (by decide) nofun ?_ nofun (by decide) nofun
  rintro _ ⟨⟩
  exact (by decide : isQuotable "1\n2")

theorem point_expressible : point.Expressible := by
  refine .intro (by decide +kernel) (by decide) (by rintro _ ⟨⟩; rfl) nofun ?_ nofun ?_
  · rintro _ ⟨⟩
    trivial
  · rintro _ ⟨⟩
    exact List.forall_mem_singleton.2 edge_expressible

theorem config_expressible : config.Expressible where
  url := by decide
  urls := by decide
  vars := List.forall_mem_singleton.2 ⟨by decide, by decide, by decide, nofun⟩
  headers := List.forall_mem_singleton.2 ⟨by decide, by decide⟩

theorem method_expressible : method.Expressible where
  verb := by decide
  name := nofun
  description := by decide +kernel
  request := by
    rintro _ ⟨⟩
    exact List.forall_mem_cons.2 ⟨point_expressible, List.forall_mem_singleton.2 edge_expressible⟩
  response := by
    rintro _ ⟨⟩
    exact nofun

theorem socket_expressible : socket.Expressible where
  url := by decide
  name := nofun
  description := by decide
  auth := by
    rintro _ ⟨⟩
    exact List.forall_mem_singleton.2 edge_expressible
  connectHeaders := nofun
  events := List.forall_mem_singleton.2 ⟨by decide, nofun, nofun⟩

theorem numbered : Numbered 1 (preorders document.categories) := by
  intro i c found
  match i with
  | 0 =>
    cases found
    exact ⟨"a-b", by decide, by decide⟩
  | 1 =>
    cases found
    exact ⟨"", by decide, by decide⟩
  | 2 =>
    cases found
    exact ⟨"\"", by decide, by decide⟩
  | i + 3 => simp [document, outer, inner, preorders, Category.preorder] at found

theorem expressible : document.Expressible where
  config := by
    rintro _ ⟨⟩
    exact config_expressible
  imports := List.forall_mem_singleton.2
    ⟨by decide, by rintro _ ⟨⟩; rfl, by rintro _ ⟨⟩; rfl⟩
  services :=
    ⟨List.forall_mem_singleton.2 ⟨by decide, List.forall_mem_singleton.2 method_expressible⟩,
      nofun, nofun, nofun⟩
  categories := by
    have ofOuter : outer.Expressible := ⟨nofun, nofun, by decide, nofun, nofun, nofun, nofun⟩
    have ofInner : inner.Expressible :=
      ⟨nofun, nofun, nofun, nofun, List.forall_mem_singleton.2 socket_expressible, nofun, nofun⟩
    have ofLast : Category.Expressible { id := "cat-\"-3" } :=
      ⟨nofun, nofun, nofun, nofun, nofun, nofun, nofun⟩
    have all : preorders document.categories = [outer, inner, { id := "cat-\"-3" }] := by
      simp [document, outer, inner, preorders, Category.preorder]
    rw [all]
    simp [ofOuter, ofInner, ofLast]
  numbered := numbered

end Telling

theorem Document.ofText_print_telling :
    Telling.document.Expressible ∧
      Document.ofText Telling.document.print = .ok Telling.document :=
  ⟨Telling.expressible, Document.ofText_print Telling.expressible⟩

end ApiCatalog
