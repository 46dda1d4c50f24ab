import LintTools.Path.Basic

/-! The part of a path below a base, as it is written in the path. Only pieces that do not count
are dropped at its ends. -/
namespace LintTools.Path

def isIdle (piece : List Char) : Bool := (pieceComponent? piece).isNone

def dropIdle (pieces : List (List Char)) : List (List Char) := pieces.dropWhile isIdle

def dropIdleEnd (pieces : List (List Char)) : List (List Char) :=
  (dropIdle pieces.reverse).reverse

def piecesBelow? : (base : List Component) → List (List Char) → Option (List (List Char))
  | [], pieces => some pieces
  | _ :: _, [] => none
  | c :: base, piece :: pieces =>
    match pieceComponent? piece with
    | none => piecesBelow? (c :: base) pieces
    | some d => if c = d then piecesBelow? base pieces else none

def joinPieces (pieces : List (List Char)) : Path :=
  ⟨String.ofList (['/'].intercalate pieces)⟩

def tidyEnd (path : Path) : Path :=
  match path.text.toList with
  | '/' :: rest =>
    ⟨String.ofList ('/' :: ['/'].intercalate (dropIdleEnd (Text.pieces '/' rest)))⟩
  | cs =>
    match Text.pieces '/' cs with
    | [] => path
    | first :: others => joinPieces (first :: dropIdleEnd others)

def below? (path base : Path) : Option Path :=
  let rest? := match path.text.toList, base.components with
    | '/' :: rest, .root :: base => piecesBelow? base (Text.pieces '/' rest)
    | '/' :: _, _ => none
    | cs, base =>
      match Text.pieces '/' cs, base with
      | ['.'] :: rest, .current :: base => piecesBelow? base rest
      | ['.'] :: _, _ => none
      | pieces, base => piecesBelow? base pieces
  if base.components.isEmpty then some (tidyEnd path)
  else rest?.map fun rest => joinPieces (dropIdleEnd (dropIdle rest))

end LintTools.Path
