import ArithQuiz.Json.Scan

/-!
# Reading a JSON value from text

`Value.parse` reads one value, allowing blanks around it. Arrays and objects
may nest 127 deep. Object members come out sorted by key, the last of equal
keys kept. A fault is placed by line and column (`positionIn`).

The reader is three functions that call each other: a value, the items of
an array, the members of an object. Each call either reads at least one
character or hands on to another that does, so the text length bounds the
recursion; where a call continues on the rest left by another, that rest is
checked to be shorter.
-/

set_option autoImplicit false

namespace ArithQuiz.Json

/-- The nesting depth allowed for arrays and objects. -/
def nestingLimit : Nat := 128

-- `hb` and `hr` are read only by the termination proofs.
set_option linter.unusedVariables false in
mutual
/-- Reads a value, `depth` levels of nesting still allowed. -/
def parseValue (depth : Nat) (cs : List Char) : Scan Value :=
  match hb : skipBlanks cs with
  | [] => .error ⟨.eofInValue, [], 1⟩
  | c :: rest =>
    if c = 'n' then (scanWord ['u', 'l', 'l'] rest).map fun (_, r) => (.null, r)
    else if c = 't' then (scanWord ['r', 'u', 'e'] rest).map fun (_, r) => (.bool true, r)
    else if c = 'f' then (scanWord ['a', 'l', 's', 'e'] rest).map fun (_, r) => (.bool false, r)
    else if c = '-' then (scanNumber false rest).map fun (n, r) => (.number n, r)
    else if c.isDigit then (scanNumber true (c :: rest)).map fun (n, r) => (.number n, r)
    else if c = '"' then (scanString rest).map fun (s, r) => (.string s, r)
    else if c = '[' then
      if depth ≤ 1 then .error ⟨.recursionLimit, c :: rest, 1⟩
      else parseItems (depth - 1) true [] rest
    else if c = '{' then
      if depth ≤ 1 then .error ⟨.recursionLimit, c :: rest, 1⟩
      else parseMembers (depth - 1) true [] rest
    else .error ⟨.expectedValue, c :: rest, 1⟩
termination_by 2 * cs.length
decreasing_by
  all_goals
    have := length_skipBlanks_le cs
    rw [hb] at this
    simp only [List.length_cons] at this
    omega

/-- Reads the items of an array after its `[` (or after an item). -/
def parseItems (depth : Nat) (first : Bool) (acc : List Value) (cs : List Char) : Scan Value :=
  match hb : skipBlanks cs with
  | [] => .error ⟨.eofInList, [], 1⟩
  | ']' :: rest => .ok (.array acc.reverse, rest)
  | c :: rest =>
    if c = ',' ∧ !first then
      match hr : skipBlanks rest with
      | ']' :: r => .error ⟨.trailingComma, ']' :: r, 1⟩
      | [] => .error ⟨.eofInValue, [], 1⟩
      | d :: r =>
        match parseValue depth (d :: r) with
        | .error f => .error f
        | .ok (v, r') =>
          if r'.length < cs.length then parseItems depth false (v :: acc) r'
          else .error ⟨.eofInList, [], 1⟩
    else if first then
      match parseValue depth (c :: rest) with
      | .error f => .error f
      | .ok (v, r') =>
        if r'.length < cs.length then parseItems depth false (v :: acc) r'
        else .error ⟨.eofInList, [], 1⟩
    else .error ⟨.expectedListCommaOrEnd, c :: rest, 1⟩
termination_by 2 * cs.length + 1
decreasing_by
  · -- the item after a comma
    have h1 := length_skipBlanks_le cs
    have h2 := length_skipBlanks_le rest
    rw [hb] at h1
    rw [hr] at h2
    simp only [List.length_cons] at h1 h2 ⊢
    omega
  · omega
  · -- the first item
    have h1 := length_skipBlanks_le cs
    rw [hb] at h1
    simp only [List.length_cons] at h1 ⊢
    omega
  · omega

/-- Reads the members of an object after its `{` (or after a member). -/
def parseMembers (depth : Nat) (first : Bool) (acc : List (String × Value)) (cs : List Char) :
    Scan Value :=
  let keyStart : Option (List Char) :=
    match skipBlanks cs with
    | c :: rest =>
      if c = ',' ∧ !first then
        match skipBlanks rest with
        | '"' :: r => some r
        | _ => none
      else if first ∧ c = '"' then some rest
      else none
    | [] => none
  match keyStart with
  | some afterQuote =>
    match scanString afterQuote with
    | .error f => .error f
    | .ok (k, r1) =>
      match skipBlanks r1 with
      | ':' :: r2 =>
        if r2.length < cs.length then
          match parseValue depth r2 with
          | .error f => .error f
          | .ok (v, r3) =>
            if r3.length < cs.length then parseMembers depth false ((k, v) :: acc) r3
            else .error ⟨.eofInObject, [], 1⟩
        else .error ⟨.eofInObject, [], 1⟩
      | [] => .error ⟨.eofInObject, [], 1⟩
      | d :: r => .error ⟨.expectedColon, d :: r, 1⟩
  | none =>
    match skipBlanks cs with
    | [] => .error ⟨.eofInObject, [], 1⟩
    | '}' :: rest => .ok (Value.ofMembers acc.reverse, rest)
    | c :: rest =>
      if c = ',' ∧ !first then
        match skipBlanks rest with
        | '}' :: r => .error ⟨.trailingComma, '}' :: r, 1⟩
        | [] => .error ⟨.eofInValue, [], 1⟩
        | d :: r => .error ⟨.keyMustBeString, d :: r, 1⟩
      else if first then .error ⟨.keyMustBeString, c :: rest, 1⟩
      else .error ⟨.expectedObjectCommaOrEnd, c :: rest, 1⟩
termination_by 2 * cs.length + 1
decreasing_by all_goals omega
end

-- `hb` is read only by the termination proof.
set_option linter.unusedVariables false in
mutual
/-- Skips a value, checking its form only; numbers are not evaluated. -/
def skipValue (cs : List Char) : Scan Unit :=
  match hb : skipBlanks cs with
  | [] => .error ⟨.eofInValue, [], 1⟩
  | c :: rest =>
    if c = 'n' then scanWord ['u', 'l', 'l'] rest
    else if c = 't' then scanWord ['r', 'u', 'e'] rest
    else if c = 'f' then scanWord ['a', 'l', 's', 'e'] rest
    else if c = '-' then skipNumber rest
    else if c.isDigit then skipNumber (c :: rest)
    else if c = '"' then skipStringFrom rest
    else if c = '[' then skipItems true rest
    else if c = '{' then skipMembers true rest
    else .error ⟨.expectedValue, c :: rest, 1⟩
termination_by 2 * cs.length
decreasing_by
  all_goals
    have := length_skipBlanks_le cs
    rw [hb] at this
    simp only [List.length_cons] at this
    omega

/-- Skips the items of an array after its `[` (or after an item). -/
def skipItems (first : Bool) (cs : List Char) : Scan Unit :=
  match skipBlanks cs with
  | [] => .error ⟨.eofInList, [], 1⟩
  | ']' :: rest => .ok ((), rest)
  | c :: rest =>
    let item : Option (List Char) :=
      if c = ',' ∧ !first then some rest else if first then some (c :: rest) else none
    match item with
    | none => .error ⟨.expectedListCommaOrEnd, c :: rest, 1⟩
    | some start =>
      if start.length < cs.length + 1 then
        match skipValue start with
        | .error f => .error f
        | .ok (_, r) =>
          if r.length < cs.length then skipItems false r else .error ⟨.eofInList, [], 1⟩
      else .error ⟨.eofInList, [], 1⟩
termination_by 2 * cs.length + 1
decreasing_by all_goals omega

/-- Skips the members of an object after its `{` (or after a member). -/
def skipMembers (first : Bool) (cs : List Char) : Scan Unit :=
  match skipBlanks cs with
  | [] => .error ⟨.eofInObject, [], 1⟩
  | '}' :: rest => .ok ((), rest)
  | c :: rest =>
    let key : Option (List Char) :=
      if c = ',' ∧ !first then some rest else if first then some (c :: rest) else none
    match key with
    | none => .error ⟨.expectedObjectCommaOrEnd, c :: rest, 1⟩
    | some start =>
      match skipBlanks start with
      | [] => .error ⟨.eofInObject, [], 1⟩
      | '"' :: r =>
        match skipStringFrom r with
        | .error f => .error f
        | .ok (_, r1) =>
          match skipBlanks r1 with
          | ':' :: r2 =>
            if r2.length < cs.length then
              match skipValue r2 with
              | .error f => .error f
              | .ok (_, r3) =>
                if r3.length < cs.length then skipMembers false r3
                else .error ⟨.eofInObject, [], 1⟩
            else .error ⟨.eofInObject, [], 1⟩
          | [] => .error ⟨.eofInObject, [], 1⟩
          | d :: r' => .error ⟨.expectedColon, d :: r', 1⟩
      | d :: r => .error ⟨.keyMustBeString, d :: r, 1⟩
termination_by 2 * cs.length + 1
decreasing_by all_goals omega
end

/-- Reads a JSON text holding one value, blanks allowed around it. -/
def Value.parse (s : String) : Except Error Value :=
  let text := s.toList
  let place (f : Fault) : Error := ⟨.malformed f.kind, some (positionIn text f.rest f.readAhead)⟩
  match parseValue nestingLimit text with
  | .error f => .error (place f)
  | .ok (v, rest) =>
    match skipBlanks rest with
    | [] => .ok v
    | c :: r => .error (place ⟨.trailingCharacters, c :: r, 1⟩)

end ArithQuiz.Json
