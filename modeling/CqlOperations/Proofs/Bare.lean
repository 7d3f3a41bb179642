import CqlOperations.Proofs.Creation

/-! What does not depend on options. A bare statement has no settings, and neither have its parts; a
bare operation makes bare statements. It goes through the same states as the operation itself, and
succeeds where that does. -/
namespace CqlOperations

variable {σ ρ : Type}

def Query.bare (q : Query) : Query :=
  { q with settings := {} }

namespace Statement

def bare : Statement → Statement
  | unprepared query values => unprepared query.bare values
  | prepared query values => prepared query.bare values
  | batch type parts _ values => batch type (parts.map Query.bare) {} values

theorem bare_apply (o : Options) (s : Statement) : (s.apply o).bare = s.bare := by
  cases s <;> rfl

theorem map_bare_map_apply (o : Options) (ss : List Statement) :
    (ss.map (apply o)).map bare = ss.map bare := by
  rw [List.map_map]
  exact List.map_congr_left fun s _ => s.bare_apply o

theorem apply_unset_bare (s : Statement) : s.bare.apply {} = s.bare := by
  cases s <;> rfl

theorem regularParts_map_bare (position : Nat) (ss : List Statement) :
    regularParts position (ss.map bare) =
      (regularParts position ss).map (List.map (Prod.map Query.bare id)) := by
  induction ss generalizing position with
  | nil => rfl
  | cons s rest ih =>
    cases s with
    | unprepared query values =>
      simp only [List.map_cons, bare, regularParts, ih]
      cases regularParts (position + 1) rest <;> rfl
    | prepared query values => rfl
    | batch type parts settings values => rfl

theorem fold_map_bare (type : BatchType) (ss : List Statement) :
    fold type (ss.map bare) = (fold type ss).map bare := by
  unfold fold
  rw [regularParts_map_bare]
  cases regularParts 0 ss with
  | error error => rfl
  | ok parts =>
    cases parts with
    | nil => rfl
    | cons part rest =>
      simp [bind, Except.bind, Except.map, pure, Except.pure, bare]

end Statement

namespace Creator

def bare (c : Creator σ) : Creator σ :=
  ⟨fun state => ((c.create state).1.map Statement.bare, (c.create state).2)⟩

theorem createAll_map_bare (creators : List (Creator σ)) (state : σ) :
    createAll (creators.map bare) state =
      ((createAll creators state).1.map (List.map Statement.bare),
        (createAll creators state).2) := by
  induction creators generalizing state with
  | nil => rfl
  | cons c rest ih =>
    cases hc : c.create state with
    | mk created middle =>
      have hbare : c.bare.create state = (created.map Statement.bare, middle) := by
        simp only [bare, hc]
      cases created with
      | error error => rw [List.map_cons, createAll, hbare, createAll, hc]; rfl
      | ok statement =>
        rw [List.map_cons, createAll, hbare, createAll, hc]
        simp only [Except.map, ih]
        cases createAll rest middle with
        | mk more last => cases more <;> rfl

end Creator

def Base.bare : Base σ ρ → Base σ ρ
  | single creator => single creator.bare
  | fanOut type creators => fanOut type (creators.map Creator.bare)
  | known statement result => known statement.bare result

namespace Operation

/-- All about an operation but its options, and what options left in its statements. -/
def bare (o : Operation σ ρ) : Operation σ ρ :=
  { o with base := o.base.bare, options := {} }

theorem creators_bare (o : Operation σ ρ) : o.bare.creators = o.creators.map Creator.bare := by
  unfold creators bare
  cases o.base <;> rfl

theorem createStatements_bare (o : Operation σ ρ) (state : σ) :
    o.bare.createStatements state =
      ((o.createStatements state).1.map (List.map Statement.bare),
        (o.createStatements state).2) := by
  have hunset : ∀ ss : List Statement,
      (ss.map Statement.bare).map (Statement.apply o.bare.options) = ss.map Statement.bare := by
    intro ss
    rw [List.map_map]
    exact List.map_congr_left fun s _ => s.apply_unset_bare
  rw [createStatements_eq, createStatements_eq, creators_bare, Creator.createAll_map_bare]
  cases (Creator.createAll o.creators state).1 with
  | error error => rfl
  | ok created =>
    simp only [Except.map, Statement.map_bare_map_apply, hunset]

theorem toStatement_bare (o : Operation σ ρ) (state : σ) :
    o.bare.toStatement state =
      ((o.toStatement state).1.map Statement.bare, (o.toStatement state).2) := by
  have happly : ∀ s : Statement, s.bare.apply {} = (s.apply o.options).bare := by
    intro s
    rw [s.apply_unset_bare, s.bare_apply]
  cases hb : o.base with
  | single creator =>
    have hbare : o.bare.base = .single creator.bare := by simp only [bare, hb, Base.bare]
    simp only [toStatement, hb, hbare, Creator.bare]
    cases (creator.create state).1 with
    | error error => rfl
    | ok created => exact congrArg (fun s => (Except.ok s, _)) (happly created)
  | fanOut type creators =>
    have hbare : o.bare.base = .fanOut type (creators.map Creator.bare) := by
      simp only [bare, hb, Base.bare]
    simp only [toStatement, hb, hbare, createStatements_bare]
    cases (o.createStatements state).1 with
    | error error => rfl
    | ok created =>
      simp only [Except.map, Statement.fold_map_bare]
      cases Statement.fold type created with
      | error error => rfl
      | ok batch => exact congrArg (fun s => (Except.ok s, _)) (happly batch)
  | known statement result =>
    have hbare : o.bare.base = .known statement.bare result := by simp only [bare, hb, Base.bare]
    simp only [toStatement, hb, hbare]
    exact congrArg (fun s => (Except.ok s, _)) (happly statement)

theorem folded_bare (o : Operation σ ρ) (state : σ) :
    o.bare.folded state = ((o.folded state).1.map bare, (o.folded state).2) := by
  unfold folded
  rw [toStatement_bare]
  cases o.toStatement state with
  | mk made after => cases made <;> rfl

/-- An execution changes what its creators change. -/
theorem state_submit (o : Operation σ ρ) (path : Path) (state : σ) :
    (o.submit path state).2.2 = (o.createStatements state).2 := by
  unfold submit
  cases hc : o.createStatements state with
  | mk created after => cases created <;> rfl

section

variable {o o' : Operation σ ρ} (h : o'.bare = o.bare) (state : σ)
include h

/-! Operations that are the same when they are bare go through the same states. -/

theorem state_submit_congr (path : Path) :
    (o'.submit path state).2.2 = (o.submit path state).2.2 := by
  have hs := createStatements_bare o' state
  rw [h, createStatements_bare] at hs
  rw [state_submit, state_submit]
  exact (congrArg Prod.snd hs).symm

theorem state_toStatement_congr : (o'.toStatement state).2 = (o.toStatement state).2 := by
  have hs := toStatement_bare o' state
  rw [h, toStatement_bare] at hs
  exact (congrArg Prod.snd hs).symm

theorem folded_congr :
    (o'.folded state).1.map bare = (o.folded state).1.map bare ∧
      (o'.folded state).2 = (o.folded state).2 := by
  have hs := folded_bare o' state
  rw [h, folded_bare] at hs
  exact ⟨(congrArg Prod.fst hs).symm, (congrArg Prod.snd hs).symm⟩

end

end Operation
end CqlOperations
