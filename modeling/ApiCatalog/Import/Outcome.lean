import ApiCatalog.Document.Reader
import ApiCatalog.Externals
import ApiCatalog.Spec.Decode

set_option autoImplicit false

namespace ApiCatalog

inductive SkipReason
  | unreadable (path : PathName) (e : ReadError)
  | malformed (path : PathName) (e : UnexpectedToken)
  | fetchFailed (detail : String)
  | invalidSpec (detail : String)
  | notFound (path : PathName)
  | unsupported (reference : String)
  | alreadyImported (path : PathName)
  | remoteDisabled

namespace SkipReason

def ofDocumentError (path : PathName) : DocumentError → SkipReason
  | .unreadable path e => unreadable path e
  | .malformed e => malformed path e

def name : SkipReason → String
  | unreadable .. => "io"
  | malformed .. => "syntax"
  | fetchFailed _ => "fetch"
  | invalidSpec _ => "invalid_openapi"
  | notFound _ => "not_found"
  | unsupported _ => "unsupported"
  | alreadyImported _ => "cycle"
  | remoteDisabled => "disabled"

def message : SkipReason → String
  | unreadable path e => (DocumentError.unreadable path e).message
  | malformed path e => s!"Parse error in {path.toText}: {e.message}"
  | fetchFailed detail | invalidSpec detail => detail
  | notFound path => s!"Import not found: {path.toText}"
  | unsupported reference => s!"Unsupported import format: {reference}"
  | alreadyImported path => s!"Already imported: {path.toText}"
  | remoteDisabled => "Remote imports are disabled"

end SkipReason

inductive ImportResult
  | loaded
  | skipped (why : SkipReason)
  | fatal (e : DocumentError)

-- `source` is an import as it is written, or the path of a root, which has no importer.
structure Outcome where
  source : String
  importer : Option PathName
  result : ImportResult

namespace Outcome

def status (o : Outcome) : String :=
  match o.result with
  | .loaded => "loaded"
  | .skipped _ => "skipped"
  | .fatal _ => "fatal"

def reason (o : Outcome) : String :=
  match o.result with
  | .loaded => "ok"
  | .skipped why => why.name
  | .fatal (.unreadable ..) => "io"
  | .fatal (.malformed _) => "syntax"

def message (o : Outcome) : String :=
  match o.result with
  | .loaded => ""
  | .skipped why => why.message
  | .fatal e => e.message

def isSkipped (o : Outcome) : Bool :=
  match o.result with
  | .skipped _ => true
  | _ => false

-- What the log says about an import. A file that is already there is nothing to warn about.
def record? (o : Outcome) : Option LogRecord :=
  match o.result, o.importer with
  | .loaded, some _ => some ⟨.info, s!"Imported {o.source}"⟩
  | .skipped (.alreadyImported path), _ =>
    some ⟨.info, s!"Skipping already imported file: {path.toText}"⟩
  | .skipped why, _ =>
    some ⟨.warning, s!"Skipping import {o.source} ({why.name}): {why.message}"⟩
  | _, _ => none

end Outcome

end ApiCatalog
