/-
# TOML documents

A document is the table that its statements build up, from the first to the last.  Definitions belong
to the table of the last header before them, or to the whole document.
-/

import TestBench.Toml.Statement

namespace TestBench
namespace Toml

/-- A document that is being built: its fields, and the table that definitions belong to. -/
structure Draft where
  fields : Fields
  current : KeyParts
  deriving Repr

namespace Draft

/-- The document without statements. -/
def start : Draft := { fields := [], current := [] }

/-- The document after a header, which `openLast?` carries out in the table before its last name. -/
def open? (openLast? : Text → Fields → Option Fields) (key : KeyParts) (draft : Draft) :
    Option Draft :=
  match key.getLast? with
  | none => none
  | some last =>
    (Fields.change? .header (openLast? last) key.dropLast draft.fields).map fun fields =>
      { fields, current := key }

/-- The document after one more statement. -/
def add? (draft : Draft) : Statement → Option Draft
  | .header key => draft.open? Fields.openTable? key
  | .elementHeader key => draft.open? Fields.openElement? key
  | .definition key value =>
    (Fields.change? .header (Fields.defineAt? key value) draft.current draft.fields).map fun fields =>
      { draft with fields }

/-- The document after more statements. -/
def addAll? : Draft → List Statement → Option Draft
  | draft, [] => some draft
  | draft, statement :: rest => (draft.add? statement).bind (addAll? · rest)

end Draft

/-- The fields of the document that a text writes; nothing if it writes none. -/
def parse? (text : Text) : Option Fields :=
  match statements? (text.length + 1) text with
  | none => none
  | some statements => (Draft.start.addAll? statements).map Draft.fields

end Toml
end TestBench
