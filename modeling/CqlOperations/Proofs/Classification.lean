import CqlOperations.Translator

/-! Which failures the standard translator recognises, what it takes them to mean, and which of them
may go away by themselves. Each is told here as a relation, one rule for each kind of failure. -/
namespace CqlOperations

namespace Backend

/-- Errors of the database that say no more than the message that comes with them. -/
inductive DatabaseError.Verbatim : DatabaseError → (String → DataAccessError) → Prop where
  | syntaxError : Verbatim .syntaxError .querySyntax
  | invalid : Verbatim .invalid .invalidQuery
  | configError : Verbatim .configError .invalidConfiguration
  | unauthorized : Verbatim .unauthorized .unauthorized
  | authenticationError : Verbatim .authenticationError .authentication
  | truncateError : Verbatim .truncateError .truncate
  | overloaded : Verbatim .overloaded .overloaded
  | isBootstrapping : Verbatim .isBootstrapping .bootstrapping

/-- Errors of the database whose own text goes before the message. -/
inductive DatabaseError.Prefaced : DatabaseError → (String → DataAccessError) → Prop where
  | readFailure (consistency : Consistency) (received required failures : Int)
      (dataPresent : Bool) :
      Prefaced (.readFailure consistency received required failures dataPresent) .executionFailure
  | writeFailure (consistency : Consistency) (received required failures : Int)
      (type : WriteType) :
      Prefaced (.writeFailure consistency received required failures type) .executionFailure
  | functionFailure (keyspace function : String) (argumentTypes : List String) :
      Prefaced (.functionFailure keyspace function argumentTypes) .executionFailure
  | serverError : Prefaced .serverError .internal
  | protocolError : Prefaced .protocolError .internal

/-- What an error of the database means, given the message that comes with it. -/
inductive DatabaseError.Means : DatabaseError → String → DataAccessError → Prop where
  | verbatim {error : DatabaseError} {make : String → DataAccessError}
      (h : error.Verbatim make) (message : String) : Means error message (make message)
  | prefaced {error : DatabaseError} {make : String → DataAccessError}
      (h : error.Prefaced make) (message : String) :
      Means error message (make (error.message ++ ": " ++ message))
  | unavailable (consistency : Consistency) (required alive : Int) (message : String) :
      Means (.unavailable consistency required alive) message
        (.insufficientReplicas consistency required alive)
  | readTimeout (consistency : Consistency) (received required : Int) (dataPresent : Bool)
      (message : String) :
      Means (.readTimeout consistency received required dataPresent) message
        (.readTimeout consistency received required dataPresent)
  | writeTimeout (consistency : Consistency) (received required : Int) (type : WriteType)
      (message : String) :
      Means (.writeTimeout consistency received required type) message
        (.writeTimeout consistency received required type.text)
  /-- A keyspace that exists is reported without a table. -/
  | keyspaceExists (keyspace message : String) :
      Means (.alreadyExists keyspace "") message (.keyspaceExists keyspace)
  | tableExists (keyspace : String) {table : String} (h : table ≠ "") (message : String) :
      Means (.alreadyExists keyspace table) message (.tableExists keyspace table)

/-- Errors of the database that mean nothing in terms of data access. -/
inductive DatabaseError.Foreign : DatabaseError → Prop where
  | unprepared (id : List UInt8) : Foreign (.unprepared id)
  | rateLimitReached (request : RequestType) (byCoordinator : Bool) :
      Foreign (.rateLimitReached request byCoordinator)
  | other (code : Int) : Foreign (.other code)

inductive DatabaseError.Passing : DatabaseError → Prop where
  | unavailable (consistency : Consistency) (required alive : Int) :
      Passing (.unavailable consistency required alive)
  | readTimeout (consistency : Consistency) (received required : Int) (dataPresent : Bool) :
      Passing (.readTimeout consistency received required dataPresent)
  | writeTimeout (consistency : Consistency) (received required : Int) (type : WriteType) :
      Passing (.writeTimeout consistency received required type)
  | overloaded : Passing .overloaded
  | isBootstrapping : Passing .isBootstrapping

/-- Failures to have a connection, with their text. -/
inductive Failure.Unconnected : Failure → String → Prop where
  | emptyPlan : Unconnected .emptyPlan Failure.emptyPlan.message
  | pool (error : PoolError) : Unconnected (.pool error) (Failure.pool error).message
  | broken (reason : BrokenConnection) :
      Unconnected (.lastAttempt (.brokenConnection reason)) reason.message

/-- What a failure means in terms of data access. -/
inductive Failure.Means : Failure → DataAccessError → Prop where
  | requestTimeout (limit : Duration) : Means (.requestTimeout limit) (.requestTimeout limit)
  | unconnected {failure : Failure} {text : String} (h : failure.Unconnected text) :
      Means failure (.connectionFailure text)
  | database {error : DatabaseError} {message : String} {meaning : DataAccessError}
      (h : error.Means message meaning) :
      Means (.lastAttempt (.database error message)) meaning

inductive Failure.Recognised : Failure → Prop where
  | requestTimeout (limit : Duration) : Recognised (.requestTimeout limit)
  | emptyPlan : Recognised .emptyPlan
  | pool (error : PoolError) : Recognised (.pool error)
  | broken (reason : BrokenConnection) : Recognised (.lastAttempt (.brokenConnection reason))
  | database {error : DatabaseError} (h : ¬ error.Foreign) (message : String) :
      Recognised (.lastAttempt (.database error message))

/-- Failures that may not come again when the request is tried again later. -/
inductive Failure.Passing : Failure → Prop where
  | requestTimeout (limit : Duration) : Passing (.requestTimeout limit)
  | unconnected {failure : Failure} {text : String} (h : failure.Unconnected text) :
      Passing failure
  | database {error : DatabaseError} (h : error.Passing) (message : String) :
      Passing (.lastAttempt (.database error message))

namespace DatabaseError

variable {error : DatabaseError} {message : String} {meaning : DataAccessError}
  {make : String → DataAccessError}

theorem Verbatim.translate? (h : error.Verbatim make) (message : String) :
    error.translate? message = some (make message) := by
  cases h <;> rfl

theorem Prefaced.translate? (h : error.Prefaced make) (message : String) :
    error.translate? message = some (make (error.message ++ ": " ++ message)) := by
  cases h <;> rfl

theorem Means.translate? (h : error.Means message meaning) :
    error.translate? message = some meaning := by
  cases h with
  | verbatim h => exact h.translate? message
  | prefaced h => exact h.translate? message
  | unavailable => rfl
  | readTimeout => rfl
  | writeTimeout => rfl
  | keyspaceExists => rfl
  | tableExists keyspace h => exact if_neg h

theorem Foreign.translate? (h : error.Foreign) (message : String) :
    error.translate? message = none := by
  cases h <;> rfl

/-- Every error of the database has a rule. -/
theorem exists_means_or_foreign (error : DatabaseError) (message : String) :
    (∃ meaning, error.Means message meaning) ∨ error.Foreign := by
  cases error with
  | syntaxError => exact .inl ⟨_, .verbatim .syntaxError message⟩
  | invalid => exact .inl ⟨_, .verbatim .invalid message⟩
  | alreadyExists keyspace table =>
    by_cases h : table = ""
    · subst h
      exact .inl ⟨_, .keyspaceExists keyspace message⟩
    · exact .inl ⟨_, .tableExists keyspace h message⟩
  | functionFailure => exact .inl ⟨_, .prefaced (.functionFailure ..) message⟩
  | authenticationError => exact .inl ⟨_, .verbatim .authenticationError message⟩
  | unauthorized => exact .inl ⟨_, .verbatim .unauthorized message⟩
  | configError => exact .inl ⟨_, .verbatim .configError message⟩
  | unavailable => exact .inl ⟨_, .unavailable ..⟩
  | overloaded => exact .inl ⟨_, .verbatim .overloaded message⟩
  | isBootstrapping => exact .inl ⟨_, .verbatim .isBootstrapping message⟩
  | truncateError => exact .inl ⟨_, .verbatim .truncateError message⟩
  | readTimeout => exact .inl ⟨_, .readTimeout ..⟩
  | writeTimeout => exact .inl ⟨_, .writeTimeout ..⟩
  | readFailure => exact .inl ⟨_, .prefaced (.readFailure ..) message⟩
  | writeFailure => exact .inl ⟨_, .prefaced (.writeFailure ..) message⟩
  | unprepared id => exact .inr (.unprepared id)
  | serverError => exact .inl ⟨_, .prefaced .serverError message⟩
  | protocolError => exact .inl ⟨_, .prefaced .protocolError message⟩
  | rateLimitReached request byCoordinator => exact .inr (.rateLimitReached request byCoordinator)
  | other code => exact .inr (.other code)

theorem Means.not_foreign (h : error.Means message meaning) : ¬ error.Foreign := by
  intro hf
  have ht := h.translate?
  rw [hf.translate?] at ht
  cases ht

theorem Verbatim.isTransient_iff (h : error.Verbatim make) (message : String) :
    (make message).isTransient = true ↔ error.Passing := by
  cases h with
  | overloaded => exact ⟨fun _ => .overloaded, fun _ => rfl⟩
  | isBootstrapping => exact ⟨fun _ => .isBootstrapping, fun _ => rfl⟩
  | _ => exact ⟨nofun, nofun⟩

theorem Prefaced.isTransient_iff (h : error.Prefaced make) (text : String) :
    (make text).isTransient = true ↔ error.Passing := by
  cases h <;> exact ⟨nofun, nofun⟩

theorem Means.isTransient_iff (h : error.Means message meaning) :
    meaning.isTransient = true ↔ error.Passing := by
  cases h with
  | verbatim h => exact h.isTransient_iff message
  | prefaced h => exact h.isTransient_iff _
  | unavailable => exact ⟨fun _ => .unavailable .., fun _ => rfl⟩
  | readTimeout => exact ⟨fun _ => .readTimeout .., fun _ => rfl⟩
  | writeTimeout => exact ⟨fun _ => .writeTimeout .., fun _ => rfl⟩
  | keyspaceExists => exact ⟨nofun, nofun⟩
  | tableExists => exact ⟨nofun, nofun⟩

end DatabaseError

namespace Failure

variable {failure : Failure} {meaning : DataAccessError}

theorem Means.recognise? (h : failure.Means meaning) :
    Translator.standard.recognise? failure = some meaning := by
  cases h with
  | requestTimeout => rfl
  | unconnected h => cases h <;> rfl
  | database h => exact h.translate?

theorem Recognised.exists_means (h : failure.Recognised) : ∃ meaning, failure.Means meaning := by
  cases h with
  | requestTimeout limit => exact ⟨_, .requestTimeout limit⟩
  | emptyPlan => exact ⟨_, .unconnected .emptyPlan⟩
  | pool error => exact ⟨_, .unconnected (.pool error)⟩
  | broken reason => exact ⟨_, .unconnected (.broken reason)⟩
  | @database error h message =>
    obtain ⟨meaning, hm⟩ := (error.exists_means_or_foreign message).resolve_right h
    exact ⟨meaning, .database hm⟩

theorem Means.recognised (h : failure.Means meaning) : failure.Recognised := by
  cases h with
  | requestTimeout limit => exact .requestTimeout limit
  | unconnected h =>
    cases h with
    | emptyPlan => exact .emptyPlan
    | pool error => exact .pool error
    | broken reason => exact .broken reason
  | @database error message meaning h => exact .database h.not_foreign message

/-- Only recognised failures are given a meaning. -/
theorem recognised_of_recognise? (h : Translator.standard.recognise? failure = some meaning) :
    failure.Recognised := by
  cases failure with
  | requestTimeout limit => exact .requestTimeout limit
  | emptyPlan => exact .emptyPlan
  | pool error => exact .pool error
  | lastAttempt error =>
    cases error with
    | database error message =>
      refine .database (fun hf => ?_) message
      have hnone : Translator.standard.recognise? (.lastAttempt (.database error message)) = none :=
        hf.translate? message
      rw [hnone] at h
      cases h
    | brokenConnection reason => exact .broken reason
    | _ => cases h
  | _ => cases h

theorem recognise?_eq_some :
    Translator.standard.recognise? failure = some meaning ↔ failure.Means meaning := by
  constructor
  · intro h
    obtain ⟨found, hm⟩ := (recognised_of_recognise? h).exists_means
    rw [hm.recognise?] at h
    exact Option.some.inj h ▸ hm
  · exact Means.recognise?

theorem recognise?_eq_none :
    Translator.standard.recognise? failure = none ↔ ¬ failure.Recognised := by
  constructor
  · intro h hr
    obtain ⟨meaning, hm⟩ := hr.exists_means
    rw [hm.recognise?] at h
    cases h
  · intro h
    cases hm : Translator.standard.recognise? failure with
    | none => rfl
    | some meaning => exact absurd (recognised_of_recognise? hm) h

theorem Means.isTransient_iff (h : failure.Means meaning) :
    meaning.isTransient = true ↔ failure.Passing := by
  cases h with
  | requestTimeout limit => exact ⟨fun _ => .requestTimeout limit, fun _ => rfl⟩
  | unconnected h => exact ⟨fun _ => .unconnected h, fun _ => rfl⟩
  | @database error message meaning h =>
    rw [h.isTransient_iff]
    constructor
    · intro hp
      exact .database hp message
    · intro hp
      cases hp with
      | unconnected h => cases h
      | database hp => exact hp

end Failure
end Backend

/-- What a translator recognises is classified by the rules above. -/
structure Translator.Classifies (t : Translator) : Prop where
  recognised : ∀ failure, (∃ meaning, t.recognise? failure = some meaning) ↔ failure.Recognised
  means : ∀ failure meaning, t.recognise? failure = some meaning ↔ failure.Means meaning
  others : ∀ failure, t.recognise? failure = none ↔ ¬ failure.Recognised
  transient : ∀ failure meaning, t.recognise? failure = some meaning →
    (meaning.isTransient = true ↔ failure.Passing)
  /-- The error of a request that failed in this way. -/
  delivered : ∀ failure error, t.translateFailure failure = error ↔
    (∃ meaning, failure.Means meaning ∧ error = .dataAccess meaning) ∨
      ¬ failure.Recognised ∧ error = .backend failure

theorem Translator.standard_classifies : standard.Classifies where
  recognised failure := by
    simp only [Backend.Failure.recognise?_eq_some]
    exact ⟨fun ⟨_, hm⟩ => hm.recognised, fun h => h.exists_means⟩
  means _ _ := Backend.Failure.recognise?_eq_some
  others _ := Backend.Failure.recognise?_eq_none
  transient _ _ h := (Backend.Failure.recognise?_eq_some.mp h).isTransient_iff
  delivered failure error := by
    unfold translateFailure
    cases hm : standard.recognise? failure with
    | none =>
      have hn := Backend.Failure.recognise?_eq_none.mp hm
      constructor
      · rintro rfl
        exact .inr ⟨hn, rfl⟩
      · rintro (⟨meaning, hmeans, -⟩ | ⟨-, rfl⟩)
        · exact absurd hmeans.recognised hn
        · rfl
    | some meaning =>
      have hmeans := Backend.Failure.recognise?_eq_some.mp hm
      constructor
      · rintro rfl
        exact .inl ⟨meaning, hmeans, rfl⟩
      · rintro (⟨found, hfound, rfl⟩ | ⟨hn, -⟩)
        · rw [hfound.recognise?] at hm
          cases hm
          rfl
        · exact absurd hmeans.recognised hn

end CqlOperations
