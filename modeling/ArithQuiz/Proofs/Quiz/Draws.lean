import Mathlib
import ArithQuiz.Proofs.Quiz.Generation

/-!
# `ArithQuiz.Proofs.Quiz.Draws`: the values drawn for variables

Variables are drawn in the order of their specifications. Each specification
gets up to `attemptLimit` draws from its range, and a draw equal to the value
of a variable accepted before, for this or any earlier specification, is
refused. A specification is left out when its range is empty, without a draw,
or when every one of its draws hit a value taken.

Of the source of draws only one law is asked: an integer drawn from a range
that holds one lies in it (`DrawSource.UniformInRange`). Under that law:

* `drawVariablesFrom_kept` is the loop invariant: the variables accepted
  before stay in front, and after them come variables drawn, in order, from a
  sublist of the specifications, each with an integer of its own range, all
  values distinct;
* `drawStep` says everything the turn of one specification can do
  (`DrawStep`): with an empty range it is left out and the source is left as
  it was; otherwise it is kept with a value of its range that no variable
  taken has, or left out once each of the next `attemptLimit` integers the
  source draws was taken.

The main statement, `drawVariables_fresh_in_range`, puts the two together
for every source beside a journal. The draws are told apart from the records
of the journal by running on `Traced σ`, whose source only the draws move
(`Traced.source_note`).
-/

set_option autoImplicit false

namespace ArithQuiz

open ArithQuiz.Random

namespace Random.DrawSource

variable (σ : Type) [DrawSource σ]

/-- Integer draws fall in the range asked for whenever it holds an integer. -/
def UniformInRange : Prop :=
  ∀ (lo hi : ℤ) (g : σ), lo ≤ hi → lo ≤ (uniformInt lo hi g).1 ∧ (uniformInt lo hi g).1 ≤ hi

variable {σ}

/-- The next `k` integers drawn from `lo..=hi`, and the source after them. -/
def uniformInts (lo hi : ℤ) : ℕ → σ → List ℤ × σ
  | 0, g => ([], g)
  | k + 1, g =>
    let (n, g) := uniformInt lo hi g
    let (ns, g) := uniformInts lo hi k g
    (n :: ns, g)

theorem uniformInts_succ (lo hi : ℤ) (k : ℕ) (g : σ) :
    uniformInts lo hi (k + 1) g =
      ((uniformInt lo hi g).1 :: (uniformInts lo hi k (uniformInt lo hi g).2).1,
        (uniformInts lo hi k (uniformInt lo hi g).2).2) := rfl

end Random.DrawSource

namespace Traced

variable {σ : Type} [DrawSource σ]

/-- A draw beside a journal is the draw of the source, the journal kept. -/
theorem uniformInt_eq (lo hi : ℤ) (t : Traced σ) :
    DrawSource.uniformInt lo hi t =
      ((DrawSource.uniformInt lo hi t.source).1,
        { t with source := (DrawSource.uniformInt lo hi t.source).2 }) := rfl

omit [DrawSource σ] in
/-- Telling in the journal leaves the source of draws alone. -/
@[simp] theorem source_note (t : Traced σ) (l : Level) (text : Unit → String) :
    (Journaled.note t l text).source = t.source := by
  unfold Journaled.note
  split <;> rfl

theorem uniformInRange (h : DrawSource.UniformInRange σ) : DrawSource.UniformInRange (Traced σ) :=
  fun lo hi t hle => h lo hi t.source hle

end Traced

/-! ### One draw -/

/-- A variable drawn for a specification: its identifier, with an integer of
its range as value. -/
def Variable.DrawnFrom (v : Variable) (spec : VariableSpec) : Prop :=
  v.identifier = spec.identifier ∧
    ∃ n : ℤ, v.value = .ofInt n ∧ spec.range.min ≤ n ∧ n ≤ spec.range.max

theorem Interval.isEmpty_eq_false_iff (r : Interval ℤ) : r.isEmpty = false ↔ r.min ≤ r.max := by
  simp [Interval.isEmpty]

section

variable {σ : Type} [DrawSource σ]

/-- An empty range fails the attempt at once, with no draw. -/
theorem VariableSpec.draw_of_isEmpty {spec : VariableSpec} (h : spec.range.isEmpty = true)
    (taken : List Variable) (g : σ) :
    spec.draw taken g = (.error (.emptyRange spec.identifier spec.range), g) := by
  rw [VariableSpec.draw, if_pos h]

/-- Otherwise one integer is drawn, and refused when a variable taken has it. -/
theorem VariableSpec.draw_of_not_isEmpty {spec : VariableSpec} (h : spec.range.isEmpty = false)
    (taken : List Variable) {g g₁ : σ} {n : ℤ}
    (hd : DrawSource.uniformInt spec.range.min spec.range.max g = (n, g₁)) :
    spec.draw taken g = if ∃ y ∈ taken, y.value = .ofInt n
      then (.error (.valueTaken spec.identifier (.ofInt n)), g₁) else (.ok (.ofInt n), g₁) := by
  rw [VariableSpec.draw, if_neg (by simp [h]), hd]
  show (if (taken.any fun y => y.value == .ofInt n) = true then _ else _) = _
  simp only [List.any_eq_true, beq_iff_eq]

/-- A value accepted is an integer of the range that no variable taken has. -/
theorem VariableSpec.draw_eq_ok_fresh (hdraw : DrawSource.UniformInRange σ) {spec : VariableSpec}
    {taken : List Variable} {g g' : σ} {v : Decimal} (h : spec.draw taken g = (.ok v, g')) :
    Variable.DrawnFrom ⟨spec.identifier, v⟩ spec ∧ ∀ y ∈ taken, y.value ≠ v := by
  cases hempty : spec.range.isEmpty with
  | true =>
      rw [VariableSpec.draw_of_isEmpty hempty] at h
      cases h
  | false =>
      rcases hd : DrawSource.uniformInt spec.range.min spec.range.max g with ⟨n, g₁⟩
      rw [VariableSpec.draw_of_not_isEmpty hempty taken hd] at h
      split at h
      · cases h
      rename_i hfresh
      cases h
      have hrange := hdraw spec.range.min spec.range.max g
        ((Interval.isEmpty_eq_false_iff _).1 hempty)
      rw [hd] at hrange
      exact ⟨⟨rfl, n, rfl, hrange⟩, fun y hy heq => hfresh ⟨y, hy, heq⟩⟩

/-! ### The loop over specifications -/

variable [Journaled σ]

/-- The variables accepted before stay, in front. -/
theorem exists_drawVariablesFrom_eq_append :
    ∀ (specs : List VariableSpec) (taken : List Variable) (g : σ),
      ∃ kept, (drawVariablesFrom taken specs g).1 = taken ++ kept
  | [], taken, g => ⟨[], by simp [drawVariablesFrom]⟩
  | spec :: specs, taken, g => by
      rw [drawVariablesFrom]
      split
      · rename_i v _ _
        obtain ⟨kept, hkept⟩ := exists_drawVariablesFrom_eq_append specs _ _
        exact ⟨⟨spec.identifier, v⟩ :: kept, by rw [hkept, List.append_assoc, List.singleton_append]⟩
      · exact exists_drawVariablesFrom_eq_append specs taken _

/-- The loop invariant: after the variables taken, whose values are distinct,
come variables drawn from a sublist of the specifications, in order, and all
values stay distinct. -/
theorem drawVariablesFrom_kept (hdraw : DrawSource.UniformInRange σ) :
    ∀ (specs : List VariableSpec) (taken : List Variable) (g : σ), (taken.map (·.value)).Nodup →
      ∃ kept, (drawVariablesFrom taken specs g).1 = taken ++ kept ∧
        List.SublistForall₂ Variable.DrawnFrom kept specs ∧ ((taken ++ kept).map (·.value)).Nodup
  | [], taken, g, hnodup => ⟨[], by simp [drawVariablesFrom], .nil, by simpa using hnodup⟩
  | spec :: specs, taken, g, hnodup => by
      rw [drawVariablesFrom]
      split
      · rename_i v g₁ hr
        -- the accepted variable joins those taken, with a value new among them
        obtain ⟨_, _, hok⟩ := retry_eq_some hr
        obtain ⟨hdrawn, hfresh⟩ := VariableSpec.draw_eq_ok_fresh hdraw hok
        have hnodup' : ((taken ++ [Variable.mk spec.identifier v]).map (·.value)).Nodup := by
          rw [List.map_append, List.nodup_append]
          refine ⟨hnodup, List.nodup_singleton _, ?_⟩
          intro a ha b hb
          obtain ⟨y, hy, rfl⟩ := List.mem_map.1 ha
          rw [List.map_singleton, List.mem_singleton] at hb
          exact hb ▸ hfresh y hy
        obtain ⟨kept, hout, hsub, hnd⟩ := drawVariablesFrom_kept hdraw specs _ g₁ hnodup'
        exact ⟨⟨spec.identifier, v⟩ :: kept, by simp [hout], .cons hdrawn hsub, by simpa using hnd⟩
      · obtain ⟨kept, hout, hsub, hnd⟩ := drawVariablesFrom_kept hdraw specs taken _ hnodup
        exact ⟨kept, hout, .cons_right hsub, hnd⟩

end

/-! ### One specification's turn -/

section

variable {σ : Type} [DrawSource σ]

/-- With an empty range every attempt fails without a draw. -/
theorem retryFrom_draw_of_isEmpty {spec : VariableSpec} (h : spec.range.isEmpty = true)
    (taken : List Variable) (unit : String) (limit : ℕ) :
    ∀ (number left : ℕ) (t : Traced σ),
      (retryFrom unit limit (spec.draw taken) number left t).1 = none ∧
        (retryFrom unit limit (spec.draw taken) number left t).2.source = t.source
  | _, 0, t => ⟨rfl, rfl⟩
  | number, left + 1, t => by
      rw [retryFrom, VariableSpec.draw_of_isEmpty h]
      obtain ⟨hnone, hsource⟩ := retryFrom_draw_of_isEmpty h taken unit limit (number + 1) left
        (Journaled.note t .debug fun _ => unit ++ " attempt " ++ toString number ++ "/" ++
          toString limit ++ " failed: " ++ (AttemptError.emptyRange spec.identifier spec.range).message)
      exact ⟨hnone, by rw [hsource, Traced.source_note]⟩

/-- Attempts on a non-empty range that all fail each drew a value taken: the
draws are the next integers of the source, one per attempt, and the source is
left after them. -/
theorem retryFrom_draw_eq_none {spec : VariableSpec} (h : spec.range.isEmpty = false)
    (taken : List Variable) (unit : String) (limit : ℕ) :
    ∀ (number left : ℕ) (t t' : Traced σ),
      retryFrom unit limit (spec.draw taken) number left t = (none, t') →
        (∀ x ∈ (DrawSource.uniformInts spec.range.min spec.range.max left t.source).1,
          ∃ y ∈ taken, y.value = .ofInt x) ∧
        t'.source = (DrawSource.uniformInts spec.range.min spec.range.max left t.source).2
  | _, 0, t, t', hr => by
      rw [retryFrom] at hr
      cases hr
      exact ⟨by simp [DrawSource.uniformInts], rfl⟩
  | number, left + 1, t, t', hr => by
      rcases hd : DrawSource.uniformInt spec.range.min spec.range.max t.source with ⟨n, s₁⟩
      have hdt := Traced.uniformInt_eq spec.range.min spec.range.max t
      rw [hd] at hdt
      rw [retryFrom, VariableSpec.draw_of_not_isEmpty h taken hdt] at hr
      by_cases htaken : ∃ y ∈ taken, y.value = .ofInt n
      · rw [if_pos htaken] at hr
        -- the first draw was taken; the rest of the attempts start after it
        obtain ⟨hall, hsource⟩ := retryFrom_draw_eq_none h taken unit limit (number + 1) left _ t' hr
        rw [Traced.source_note] at hall hsource
        rw [DrawSource.uniformInts_succ, hd]
        refine ⟨fun x hx => ?_, hsource⟩
        rcases List.mem_cons.1 hx with rfl | hx
        · exact htaken
        · exact hall x hx
      · rw [if_neg htaken] at hr
        cases hr

/-- What the turn of one specification `spec` can do, after the variables
`taken` and before the specifications `specs`, from the source and journal
`t`: the loop goes on over `specs` from one of three points. -/
inductive DrawStep (taken : List Variable) (spec : VariableSpec) (specs : List VariableSpec)
    (t : Traced σ) : List Variable × Traced σ → Prop
  /-- An empty range: the specification is left out and nothing is drawn. -/
  | emptyRange (t' : Traced σ) : spec.range.isEmpty = true → t'.source = t.source →
      DrawStep taken spec specs t (drawVariablesFrom taken specs t')
  /-- An integer of the range that no variable taken has: the variable is kept. -/
  | kept (n : ℤ) (t' : Traced σ) : spec.range.min ≤ n → n ≤ spec.range.max →
      (∀ y ∈ taken, y.value ≠ .ofInt n) →
      DrawStep taken spec specs t (drawVariablesFrom (taken ++ [⟨spec.identifier, .ofInt n⟩]) specs t')
  /-- Each of the next `attemptLimit` integers drawn was taken: the
  specification is left out, after those draws. -/
  | collided (t' : Traced σ) : spec.range.isEmpty = false →
      (∀ x ∈ (DrawSource.uniformInts spec.range.min spec.range.max attemptLimit t.source).1,
        ∃ y ∈ taken, y.value = .ofInt x) →
      t'.source = (DrawSource.uniformInts spec.range.min spec.range.max attemptLimit t.source).2 →
      DrawStep taken spec specs t (drawVariablesFrom taken specs t')

/-- Every turn of a specification is one of the three of `DrawStep`. -/
theorem drawStep (hdraw : DrawSource.UniformInRange σ) (taken : List Variable)
    (spec : VariableSpec) (specs : List VariableSpec) (t : Traced σ) :
    DrawStep taken spec specs t (drawVariablesFrom taken (spec :: specs) t) := by
  rw [drawVariablesFrom]
  rcases hr : retry "Variable" (spec.draw taken) attemptLimit t with ⟨_ | v, t₁⟩
  · -- left out: either nothing was drawn, or every draw was taken
    dsimp only
    cases hempty : spec.range.isEmpty with
    | true =>
        have hsource := (retryFrom_draw_of_isEmpty hempty taken "Variable" attemptLimit 1
          attemptLimit t).2
        rw [← retry, hr] at hsource
        exact .emptyRange _ hempty (by rw [Traced.source_note]; exact hsource)
    | false =>
        obtain ⟨hall, hsource⟩ := retryFrom_draw_eq_none hempty taken "Variable" attemptLimit 1
          attemptLimit t t₁ hr
        exact .collided _ hempty hall (by rw [Traced.source_note]; exact hsource)
  · dsimp only
    obtain ⟨_, _, hok⟩ := retry_eq_some hr
    obtain ⟨⟨-, n, hv, hlo, hhi⟩, hfresh⟩ :=
      VariableSpec.draw_eq_ok_fresh (Traced.uniformInRange hdraw) hok
    obtain rfl : v = .ofInt n := hv
    exact .kept n t₁ hlo hhi hfresh

/-- The variables drawn for a list of specifications, for every source of
draws that keeps to its ranges: they come, in order, from a sublist of the
specifications, each with its identifier and an integer of its range, and
their values are pairwise distinct. Each specification's turn either leaves
it out with an empty range and no draw, keeps it with a value of its range
not taken before, or leaves it out after each of its `attemptLimit` draws hit
a value taken. -/
theorem drawVariables_fresh_in_range (hdraw : DrawSource.UniformInRange σ) :
    (∀ (specs : List VariableSpec) (t : Traced σ),
      List.SublistForall₂ Variable.DrawnFrom (drawVariables specs t).1 specs ∧
        ((drawVariables specs t).1.map (·.value)).Nodup) ∧
      ∀ (taken : List Variable) (spec : VariableSpec) (specs : List VariableSpec) (t : Traced σ),
        DrawStep taken spec specs t (drawVariablesFrom taken (spec :: specs) t) := by
  refine ⟨fun specs t => ?_, drawStep hdraw⟩
  obtain ⟨kept, hout, hsub, hnodup⟩ :=
    drawVariablesFrom_kept (Traced.uniformInRange hdraw) specs [] t (by simp)
  rw [drawVariables, hout, List.nil_append]
  exact ⟨hsub, by simpa using hnodup⟩

end

/-- The lowest draws keep to their ranges. -/
theorem lowestDraws_uniformInRange : DrawSource.UniformInRange LowestDraws :=
  fun _ _ _ hle => ⟨le_rfl, hle⟩

/-- Two variables whose ranges hold one integer each, drawn by the lowest
draws: both are kept, distinct and in range. -/
theorem lowestDraws_fresh_in_range :
    DrawSource.UniformInRange LowestDraws ∧
      List.SublistForall₂ Variable.DrawnFrom
        (drawVariables [⟨"a", ⟨1, 1⟩⟩, ⟨"b", ⟨2, 2⟩⟩] LowestDraws.traced).1
        [⟨"a", ⟨1, 1⟩⟩, ⟨"b", ⟨2, 2⟩⟩] :=
  ⟨lowestDraws_uniformInRange,
    ((drawVariables_fresh_in_range lowestDraws_uniformInRange).1 _ _).1⟩

end ArithQuiz
