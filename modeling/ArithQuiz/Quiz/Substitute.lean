import ArithQuiz.Quiz.Basic

/-!
# Putting values in place of identifiers

* `Substitution.literal`: for each variable in turn, every occurrence of its
  identifier in the text so far is replaced by its value, left to right and
  without overlaps; an empty identifier inserts the value between all
  characters and at both ends.
* `Substitution.token`: the text is cut into tokens at operators and
  parentheses, which stay; a token equal to some variable's identifier is
  replaced by the value of the first such variable.

Values are written in canonical decimal text.
-/

set_option autoImplicit false

namespace ArithQuiz

/-- Replaces every occurrence of `pat` in `s` by `rep`, left to right and
without overlaps; an empty `pat` occurs before every character and at the end. -/
def replaceAll (pat rep : List Char) (s : List Char) : List Char :=
  match pat, s with
  | [], _ => rep ++ s.flatMap (fun c => c :: rep)
  | _ :: _, [] => []
  | p :: ps, c :: cs =>
    if (p :: ps).isPrefixOf (c :: cs) then rep ++ replaceAll (p :: ps) rep (cs.drop ps.length)
    else c :: replaceAll (p :: ps) rep cs
termination_by s.length
decreasing_by
  · simp only [List.length_drop, List.length_cons]; omega
  · simp

/-- The characters that end a token: operators and parentheses. -/
def isStructural (c : Char) : Bool := Operator.isSymbol c || c = '(' || c = ')'

/-- A token, or the value of the first variable it names. -/
def tokenValue (vars : List Variable) (tok : List Char) : List Char :=
  let name := String.ofList tok
  match vars.find? (fun v => v.identifier == name) with
  | some v => v.value.toText.toList
  | none => tok

/-- Replaces tokens; `tok` is the token read so far, reversed. -/
def replaceTokens (vars : List Variable) (tok : List Char) : List Char → List Char
  | [] => tokenValue vars tok.reverse
  | c :: cs =>
    if isStructural c then tokenValue vars tok.reverse ++ c :: replaceTokens vars [] cs
    else replaceTokens vars (c :: tok) cs

/-- The text of an expression with values in place of identifiers. -/
def Substitution.apply (mode : Substitution) (text : String) (vars : List Variable) : String :=
  match mode with
  | .literal =>
    String.ofList (vars.foldl (fun s v => replaceAll v.identifier.toList v.value.toText.toList s) text.toList)
  | .token => String.ofList (replaceTokens vars [] text.toList)

end ArithQuiz
