import OpenApiClient.Web.CodePage.Basic

set_option autoImplicit false

namespace OpenApiClient.Web

structure Grid where
  row : Nat
  cell : Nat
  rows : List String

namespace Grid

def find? (grid : Grid) (row cell : Nat) : Option Char :=
  if row < grid.row || cell < grid.cell then none
  else
    match grid.rows[row - grid.row]? with
    | some chars => chars.toList[cell - grid.cell]?.filter (· != ' ')
    | none => none

def findIn? (grids : List Grid) (row cell : Nat) : Option Char :=
  grids.findSome? fun grid => grid.find? row cell

def textIn? (grids : List Grid) (marked : List (Nat × Nat × String)) (row cell : Nat) :
    Option (List Char) :=
  match marked.find? fun (r, c, _) => r == row && c == cell with
  | some (_, _, text) => some text.toList
  | none => (findIn? grids row cell).map ([·])

def chars (grid : Grid) : List Char :=
  (grid.rows.flatMap String.toList).filter (· != ' ')

def unlisted (first count : Nat) (listed : List Char) : Array Nat :=
  let flags := listed.foldl (fun (flags : Array Bool) c =>
    if first ≤ c.toNat then flags.setIfInBounds (c.toNat - first) true else flags)
    (Array.replicate count false)
  ((List.range count).filter fun n => !flags.getD n true).toArray.map (first + ·)

end Grid
end OpenApiClient.Web
