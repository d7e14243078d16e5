/-
# Pieces of a report

A report is written in pieces: plain text, raw bytes, text in a style, and cells with spaces behind them.
Whether styles show is decided when the pieces are turned into bytes: a terminal sequence switches the style
on before the text and all styles off behind it.

| style | sequence | used for |
| --- | --- | --- |
| `pass` | 32, green | passed cases |
| `fail` | 31, red | failed cases, terminated binaries |
| `ignore` | 34, blue | ignored cases |
| `strong` | 1, bold | headers, counts, locations |
| `banner` | 7, reversed | the line that introduces a variant |
-/

import TestBench.Text.Utf8
import TestBench.Protocol.Line

namespace TestBench
namespace Report

/-- A style of text. -/
inductive Style where
  | pass
  | fail
  | ignore
  | strong
  | banner
  deriving DecidableEq, Repr

namespace Style

/-- The parameters of the terminal sequence of a style. -/
def parameters : Style → Text
  | pass => "32".toList
  | fail => "31".toList
  | ignore => "34".toList
  | strong => "1".toList
  | banner => "7".toList

/-- The style of a case's status. -/
def ofStatus : Protocol.Status → Style
  | .ignore => ignore
  | .pass => pass
  | .fail => fail

end Style

/-- The terminal sequence that selects a rendition. -/
def rendition (parameters : Text) : Text :=
  Char.ofNat 27 :: '[' :: parameters ++ "m".toList

/-- `text` between the sequence of a rendition and the one that ends it. -/
def inRendition (parameters text : Text) : Text :=
  rendition parameters ++ text ++ rendition "0".toList

/-- A text in a style, if styles show. -/
def Style.paint (color : Bool) (style : Style) (t : Text) : Text :=
  if color then inRendition style.parameters t else t

/-- A piece of a report. -/
inductive Piece where
  | text (t : Text)
  | bytes (b : Bytes)
  | styled (style : Style) (t : Text)
  /-- A text, in a style if one is given, and so many spaces. -/
  | padded (style : Option Style) (t : Text) (count : Nat)
  deriving DecidableEq, Repr

namespace Piece

/-- The end of a line. -/
def lineEnd : Piece := text "\n".toList

/-- `count` spaces. -/
def spaces (count : Nat) : Piece := text (List.replicate count ' ')

/-- The bytes of a piece, with or without its style. -/
def render (color : Bool) : Piece → Bytes
  | text t => Utf8.encode t
  | bytes b => b
  | styled style t => Utf8.encode (style.paint color t)
  | padded none t count => Utf8.encode (t ++ List.replicate count ' ')
  | padded (some style) t count => Utf8.encode (style.paint color t ++ List.replicate count ' ')

/-- The most spaces that a padded text can have: their number has to fit into sixteen bits. -/
def greatestCount : Nat := 65535

/-- The piece can be written at all. -/
def isInRange : Piece → Bool
  | padded _ _ count => count ≤ greatestCount
  | _ => true

end Piece

/-- The bytes of a report. -/
def render (color : Bool) (pieces : List Piece) : Bytes := pieces.flatMap (Piece.render color)

@[simp] theorem render_nil (color : Bool) : render color [] = [] := rfl

@[simp] theorem render_append (color : Bool) (p q : List Piece) :
    render color (p ++ q) = render color p ++ render color q := by
  simp [render]

end Report
end TestBench
