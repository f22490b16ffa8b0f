import Mathlib.Data.String.Basic

/-! Shell patterns, read as `fnmatch` reads them. -/
namespace Glob

inductive Token where
  | star
  | one (p : Char → Bool)

/-- The characters up to the next closing bracket, and what follows it. -/
def closing : List Char → Option (List Char × List Char)
  | [] => none
  | ']' :: rest => some ([],rest)
  | c :: rest => (closing rest).map fun r => (c :: r.1,r.2)

/-- A class of characters after its opening bracket: a closing bracket that is first in it is one of the characters. -/
def classBody : List Char → Option (Bool × List Char × List Char)
  | '!' :: ']' :: rest => (closing rest).map fun r => (true,']' :: r.1,r.2)
  | '!' :: rest => (closing rest).map fun r => (true,r)
  | ']' :: rest => (closing rest).map fun r => (false,']' :: r.1,r.2)
  | rest => (closing rest).map fun r => (false,r)

def ranges : List Char → List (Char × Char)
  | a :: '-' :: b :: rest => (a,b) :: ranges rest
  | a :: rest => (a,a) :: ranges rest
  | [] => []

def tokens : ℕ → List Char → List Token
  | n + 1, '*' :: rest => .star :: tokens n rest
  | n + 1, '?' :: rest => .one (fun _ => true) :: tokens n rest
  | n + 1, '[' :: rest =>
    match classBody rest with
    | some (negated,body,rest) =>
      .one (fun c => ((ranges body).any fun r => r.1 ≤ c ∧ c ≤ r.2) != negated) :: tokens n rest
    | none => .one (· == '[') :: tokens n rest
  | n + 1,c :: rest => .one (· == c) :: tokens n rest
  | _,_ => []

def someEnd (rest : List Char → Bool) : List Char → Bool
  | [] => rest []
  | c :: text => rest (c :: text) || someEnd rest text

def accepts : List Token → List Char → Bool
  | [],text => text.isEmpty
  | .star :: pattern,text => someEnd (accepts pattern) text
  | .one p :: pattern,c :: text => p c && accepts pattern text
  | .one _ :: _,[] => false

def fnmatchcase (text pattern : String) : Bool := accepts (tokens pattern.length pattern.toList) text.toList

example : fnmatchcase "restart_service" "re[a-m]t*_?ervice" = false ∧ fnmatchcase "restart_service" "re[n-z]t*_?ervice" = true ∧
    fnmatchcase "a]" "[!]x]]" = true := by decide +kernel

theorem someEnd_of {rest : List Char → Bool} {t u : List Char} (h : rest u = true) : someEnd rest (t ++ u) = true := by
  induction t with
  | nil => cases u <;> simp [someEnd,h]
  | cons c t ih => simp [someEnd,ih]

/-- The pattern that everything matches. -/
@[simp] theorem fnmatchcase_star (text : String) : fnmatchcase text "*" = true := by
  have hend : someEnd (accepts []) (text.toList ++ []) = true := someEnd_of rfl
  rwa [List.append_nil] at hend

end Glob
