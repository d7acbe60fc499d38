import JobDesk.Text.Canonical.Pairs

/-!
# Canonical text — one spelling for characters with marks

Texts that differ only in how characters with marks are written, or in the order of marks of
different classes, have one canonical spelling: as few characters as there can be, and marks in the
order of their classes.
-/

namespace JobDesk.Text.Canonical

/-- A character before others: a mark stands behind those of lower classes that it follows. -/
def arrange (c : Char) : List Char → List Char
  | [] => [c]
  | d :: rest =>
    if markClass d ≠ 0 ∧ markClass d < markClass c then d :: arrange c rest else c :: d :: rest

/-- Joins marks with the character before them.  `passed` holds the marks behind that character, the
last one first, with which it makes nothing; they keep away marks that are not of a higher class. -/
def join (c : Char) (passed : List Char) : List Char → List Char
  | [] => c :: passed.reverse
  | d :: rest =>
    let isKept := passed.head?.any fun p => markClass d ≤ markClass p
    match if isKept then none else whole? c d with
    | some whole => join whole passed rest
    | none =>
      if markClass d = 0 then (c :: passed.reverse) ++ join d [] rest
      else join c (d :: passed) rest

def spell (text : List Char) : List Char :=
  match (text.flatMap decompose).foldr arrange [] with
  | [] => []
  | c :: rest => join c [] rest

end JobDesk.Text.Canonical
