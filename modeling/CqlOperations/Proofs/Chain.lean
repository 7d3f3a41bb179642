import CqlOperations.Output

/-! Processors one after the other, up to the first one that does not succeed. -/
namespace CqlOperations.Processor

variable {ρ : Type}

/-- A processor that does not panic. -/
def Returns (p : Processor ρ) : Prop :=
  ∀ input, ∃ result, p.run input = .returned result

/-- What processors come to that work on what the one before made, the first one on `output`. -/
def through : List (Processor ρ) → Output ρ → Outcome (Result ρ)
  | [], output => .returned (.ok output)
  | p :: rest, input =>
    match p.run input with
    | .returned (.ok output) => through rest output
    | ending => ending

/-- Those of them that run, with what they run on. -/
def trail : List (Processor ρ) → Output ρ → List (Processor ρ × Output ρ)
  | [], _ => []
  | p :: rest, input =>
    (p, input) :: match p.run input with
      | .returned (.ok output) => trail rest output
      | _ => []

/-- The first of them that does not succeed is `p`, which comes after `before` and gets `input`. -/
structure Stops (processors : List (Processor ρ)) (output : Output ρ)
    (before : List (Processor ρ)) (p : Processor ρ) (input : Output ρ) : Prop where
  split : ∃ after, processors = before ++ p :: after
  reached : through before output = .returned (.ok input)
  stops : ∀ made, p.run input ≠ .returned (.ok made)

theorem through_cons_ok {p : Processor ρ} {input output : Output ρ}
    (hp : p.run input = .returned (.ok output)) (rest : List (Processor ρ)) :
    through (p :: rest) input = through rest output := by
  rw [through, hp]

theorem through_cons_stop {p : Processor ρ} {input : Output ρ}
    (hp : ∀ made, p.run input ≠ .returned (.ok made)) (rest : List (Processor ρ)) :
    through (p :: rest) input = p.run input := by
  unfold through
  split
  next made heq => exact absurd heq (hp made)
  next => rfl

theorem trail_cons_ok {p : Processor ρ} {input output : Output ρ}
    (hp : p.run input = .returned (.ok output)) (rest : List (Processor ρ)) :
    trail (p :: rest) input = (p, input) :: trail rest output := by
  rw [trail, hp]

theorem trail_cons_stop {p : Processor ρ} {input : Output ρ}
    (hp : ∀ made, p.run input ≠ .returned (.ok made)) (rest : List (Processor ρ)) :
    trail (p :: rest) input = [(p, input)] := by
  unfold trail
  split
  next made heq => exact absurd heq (hp made)
  next => rfl

/-- Either a processor succeeds or it does not. -/
theorem run_cases (p : Processor ρ) (input : Output ρ) :
    (∃ made, p.run input = .returned (.ok made)) ∨
      ∀ made, p.run input ≠ .returned (.ok made) := by
  by_cases h : ∃ made, p.run input = .returned (.ok made)
  · exact .inl h
  · exact .inr fun made hm => h ⟨made, hm⟩

/-- Where the first ones succeed the others go on with what they made. -/
theorem through_append {before : List (Processor ρ)} {output made : Output ρ}
    (h : through before output = .returned (.ok made)) (rest : List (Processor ρ)) :
    through (before ++ rest) output = through rest made := by
  induction before generalizing output with
  | nil =>
    cases h
    rfl
  | cons p more ih =>
    rcases p.run_cases output with ⟨next, hp⟩ | hp
    · rw [through_cons_ok hp] at h
      rw [List.cons_append, through_cons_ok hp, ih h]
    · rw [through_cons_stop hp] at h
      exact absurd h (hp made)

/-- All of them succeed, or there is a first one that does not. -/
theorem through_cases (processors : List (Processor ρ)) (output : Output ρ) :
    (∃ made, through processors output = .returned (.ok made)) ∨
      ∃ before p input, Stops processors output before p input := by
  induction processors generalizing output with
  | nil => exact .inl ⟨output, rfl⟩
  | cons p rest ih =>
    rcases p.run_cases output with ⟨made, hp⟩ | hp
    · rcases ih made with ⟨last, hl⟩ | ⟨before, q, input, ⟨after, rfl⟩, hr, hs⟩
      · exact .inl ⟨last, by rw [through_cons_ok hp, hl]⟩
      · refine .inr ⟨p :: before, q, input, ⟨after, rfl⟩, ?_, hs⟩
        rw [through_cons_ok hp, hr]
    · exact .inr ⟨[], p, output, ⟨rest, rfl⟩, rfl, hp⟩

/-- Processors that return come to a result together. -/
theorem through_returns {processors : List (Processor ρ)} (hp : ∀ p ∈ processors, p.Returns)
    (output : Output ρ) : ∃ r, through processors output = .returned r := by
  induction processors generalizing output with
  | nil => exact ⟨.ok output, rfl⟩
  | cons p rest ih =>
    rcases p.run_cases output with ⟨made, hm⟩ | hs
    · rw [through_cons_ok hm]
      exact ih (fun q hq => hp q (List.mem_cons_of_mem p hq)) made
    · rw [through_cons_stop hs]
      exact hp p List.mem_cons_self output

/-- Where all succeed all run. -/
theorem trail_of_through {processors : List (Processor ρ)} {output made : Output ρ}
    (h : through processors output = .returned (.ok made)) :
    (trail processors output).map Prod.fst = processors := by
  induction processors generalizing output with
  | nil => rfl
  | cons p rest ih =>
    rcases p.run_cases output with ⟨next, hp⟩ | hp
    · rw [through_cons_ok hp] at h
      rw [trail_cons_ok hp, List.map_cons, ih h]
    · rw [through_cons_stop hp] at h
      exact absurd h (hp made)

namespace Stops

variable {processors before : List (Processor ρ)} {output input : Output ρ} {p : Processor ρ}

/-- What the first one that does not succeed comes to, they all come to. -/
theorem through_eq (h : Stops processors output before p input) :
    through processors output = p.run input := by
  obtain ⟨⟨after, rfl⟩, hr, hs⟩ := h
  rw [through_append hr]
  exact through_cons_stop hs after

/-- None after it runs. -/
theorem trail_eq (h : Stops processors output before p input) :
    trail processors output = trail before output ++ [(p, input)] := by
  obtain ⟨⟨after, rfl⟩, hr, hs⟩ := h
  induction before generalizing output with
  | nil =>
    cases hr
    exact trail_cons_stop hs after
  | cons q rest ih =>
    rcases q.run_cases output with ⟨next, hq⟩ | hq
    · rw [through_cons_ok hq] at hr
      rw [List.cons_append, trail_cons_ok hq, trail_cons_ok hq, ih hr, List.cons_append]
    · rw [through_cons_stop hq] at hr
      exact absurd hr (hq input)

theorem map_fst_trail (h : Stops processors output before p input) :
    (trail processors output).map Prod.fst = before ++ [p] := by
  rw [h.trail_eq, List.map_append, trail_of_through h.reached]
  rfl

theorem mem (h : Stops processors output before p input) : p ∈ processors := by
  obtain ⟨⟨after, rfl⟩, -, -⟩ := h
  exact List.mem_append_right _ List.mem_cons_self

theorem error_of_returns (h : Stops processors output before p input)
    (hp : ∀ p ∈ processors, p.Returns) :
    ∃ error, p.run input = .returned (.error error) := by
  obtain ⟨r, hr⟩ := hp p h.mem input
  cases r with
  | error error => exact ⟨error, hr⟩
  | ok made => exact absurd hr (h.stops made)

end Stops
end CqlOperations.Processor
