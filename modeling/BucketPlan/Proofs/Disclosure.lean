import BucketPlan.Proofs.History
import BucketPlan.Proofs.Redaction.Accounts

namespace BucketPlan

/-- The texts that a value has when it is written on a line. The keys of maps are not among them. -/
inductive Value.Tells : Value → String → Prop
  | str (s : String) : Tells (.str s) s
  | bytes (octets : List UInt8) : Tells (.bytes octets) (quotedBytes octets)
  | moment (date : Date) : Tells (.moment date) date.text
  | list {items : List Value} {item : Value} {text : String} (member : item ∈ items)
      (told : Tells item text) : Tells (.list items) text
  | tuple {items : List Value} {item : Value} {text : String} (member : item ∈ items)
      (told : Tells item text) : Tells (.tuple items) text
  | map {entries : List (Value × Value)} {key value : Value} {text : String}
      (member : (key, value) ∈ entries) (told : Tells value text) : Tells (.map entries) text

namespace Value

variable {text : String}

@[simp]
theorem tells_str {s : String} : (Value.str s).Tells text ↔ text = s := by
  constructor
  · rintro ⟨⟩
    rfl
  · rintro rfl
    exact .str _

@[simp]
theorem not_tells_int {n : Int} : ¬(Value.int n).Tells text := nofun

theorem tells_name {name : Option String} : (plain name : Value).Tells text ↔ name = some text := by
  cases name with
  | none => exact iff_of_false nofun nofun
  | some name => rw [Option.some.injEq, eq_comm]; exact tells_str

theorem tells_texts {texts : List String} : (plain texts : Value).Tells text ↔ text ∈ texts := by
  constructor
  · rintro ⟨⟩
    rename_i item member told
    obtain ⟨s, among, rfl⟩ := List.mem_map.mp member
    rwa [tells_str.mp told]
  · intro among
    exact .list (List.mem_map.mpr ⟨text, among, rfl⟩) (.str text)

theorem tells_record {fields : List (String × Value)} :
    (record fields).Tells text ↔ ∃ field ∈ fields, field.2.Tells text := by
  constructor
  · rintro ⟨⟩
    rename_i key value member told
    obtain ⟨field, among, same⟩ := List.mem_map.mp member
    cases same
    exact ⟨field, among, told⟩
  · rintro ⟨field, among, told⟩
    exact .map (List.mem_map.mpr ⟨field, among, rfl⟩) told

end Value

/-- An entry of the log is an event with a certain text among the values of its fields. -/
def LogEntry.Tells (entry : LogEntry) (text : String) : Prop :=
  ∃ fields, entry.body = .event fields ∧ (Value.record fields).Tells text

/-- A run leaves a text that gives away an account or a key in one of its events. -/
def Run.Leaks (run : Run) (text : String) : Prop :=
  Exposes text ∧ ∃ entry ∈ run.entries, entry.Tells text

theorem Stage.not_exposes_name (stage : Stage) : ¬Exposes stage.name := by
  cases stage <;> exact not_exposes_of_few_digits (by decide +kernel)

theorem State.not_exposes_name (state : State) : ¬Exposes state.name := by
  cases state <;> exact not_exposes_of_few_digits (by decide +kernel)

namespace Compilation

variable {c : Compilation} {text : String}

/-- Of all that an event tells, only the name of the bucket and the further fields can give something
away: the message is redacted, and the other words are fixed ones. -/
theorem event_tells_iff {level : Level} {stage event reason message : String}
    {extra : List (String × Value)}
    (inStage : ¬Exposes stage) (asEvent : event.toList.countP isDecimal < 12)
    (forReason : reason.toList.countP isDecimal < 12)
    (added : eventFields c.fieldOrder.names c.bucketName stage event reason message extra =
      eventFields c.fieldOrder.names c.bucketName stage event reason message [] ++ extra)
    (exposed : Exposes text) :
    (c.event level stage event reason message extra).Tells text ↔
      c.bucketName = some text ∨ ∃ field ∈ extra, field.2.Tells text := by
  have other {word : String} (plain : ¬Exposes word) : ¬(Value.str word).Tells text := by
    intro told
    rw [Value.tells_str.mp told] at exposed
    exact plain exposed
  have component : ¬Exposes "s3-bucket-compiler" := not_exposes_of_few_digits (by decide +kernel)
  have standard : (∃ field ∈ eventFields c.fieldOrder.names c.bucketName stage event reason message [],
      field.2.Tells text) ↔ c.bucketName = some text := by
    simp only [eventFields, List.foldl_nil, List.exists_mem_cons_iff, List.not_mem_nil, false_and,
      exists_false, Value.tells_name, other component, other inStage,
      other (not_exposes_of_few_digits asEvent), other (not_exposes_of_few_digits forReason),
      other (redactIn_clean c.fieldOrder.arranged message), or_false, false_or]
  have told : (c.event level stage event reason message extra).Tells text ↔
      (Value.record (eventFields c.fieldOrder.names c.bucketName stage event reason message
        extra)).Tells text :=
    ⟨fun ⟨_, same, told⟩ => by cases same; exact told, fun told => ⟨_, rfl, told⟩⟩
  rw [told, added, Value.tells_record, ← standard]
  simp only [List.mem_append, or_and_right, exists_or]

theorem startEntry_tells_iff (exposed : Exposes text) :
    c.startEntry.Tells text ↔ c.bucketName = some text := by
  rw [startEntry, event_tells_iff (Stage.not_exposes_name _) (by decide +kernel) (by decide +kernel)
    (List.append_nil _).symm exposed]
  simp

/-- What the closing event of a run can give away: the name of the bucket, and the paths of the
violations that it is turned down for. -/
theorem closingEntry_tells_iff {stage : Stage} {sorted : Except Fault (List Violation)}
    (exposed : Exposes text) :
    (c.closingEntry stage sorted).Tells text ↔ c.bucketName = some text ∨
      c.state ≠ .bundled ∧ ∃ violations, sorted = .ok violations ∧ ∃ v ∈ violations, v.path = text := by
  rw [closingEntry.eq_def]
  split
  · rw [failureEntry, event_tells_iff (State.not_exposes_name _) (by decide +kernel) (by decide +kernel)
      (List.append_nil _).symm exposed]
    simp
  · rename_i violations
    split
    · rename_i bundled
      rw [event_tells_iff (Stage.not_exposes_name _) (by decide +kernel) (by decide +kernel)
        (by simp [eventFields, putField]) exposed]
      simp [bundled]
    · rename_i refused
      rw [event_tells_iff (Stage.not_exposes_name _) (by decide +kernel) (by decide +kernel)
        (by simp [eventFields, putField]) exposed]
      simp [refused, Value.tells_texts]

theorem not_tells_remarks {d : Descriptor} {entry : LogEntry} (member : entry ∈ d.remarks) :
    ¬entry.Tells text := by
  rintro ⟨fields, event, _⟩
  obtain ⟨remark, _, rfl⟩ := List.mem_map.mp member
  cases event

theorem not_tells_remarksOf {states : List State} {entry : LogEntry}
    (member : entry ∈ c.remarksOf states) : ¬entry.Tells text := by
  rw [remarksOf] at member
  split at member
  · exact not_tells_remarks member
  · cases member

theorem Course.getLast?_states {log : Log} {plan : Option Plan} {states : List State}
    (course : c.Course log plan states) :
    states.getLast? = some (if plan.isSome then .bundled else .rejected) := by
  cases course <;> rfl

/-- A run that is not bundled and whose log is in order returns a rejection with the violations of it. -/
theorem Ends.turnedDown_iff {run : Run} {plan : Option Plan} {states : List State}
    {holds : List Violation → Prop} (course : c.Course run.after.log plan states)
    (ends : c.Ends run plan states) :
    (run.after.state ≠ .bundled ∧
        ∃ violations, run.after.log.sorted = .ok violations ∧ holds violations) ↔
      ∃ result, run.outcome = .ok result ∧ result.state = .rejected ∧ holds result.violations := by
  have last := run.after.getLast?_history
  rw [ends.history, course.getLast?_states] at last
  have final : (if plan.isSome then State.bundled else .rejected) = run.after.state :=
    Option.some.inj last
  rw [ends.outcome, ← final]
  constructor
  · rintro ⟨refused, violations, ordered, holds⟩
    refine ⟨c.verdict plan states violations, by rw [ordered]; rfl, ?_, holds⟩
    cases plan with
    | none => rfl
    | some plan => exact absurd rfl refused
  · rintro ⟨result, returned, rejected, holds⟩
    cases ordered : run.after.log.sorted with
    | error fault =>
      rw [ordered] at returned
      cases returned
    | ok violations =>
      rw [ordered] at returned
      cases returned
      refine ⟨?_, violations, rfl, holds⟩
      rw [show (if plan.isSome then State.bundled else .rejected) = .rejected from rejected]
      decide

/-- What the events of a run give away: the name of the bucket, told by all of them, and the paths of
the violations that it is turned down for, told by the last. -/
theorem Ends.tells_iff {run : Run} {plan : Option Plan} {states : List State}
    (course : c.Course run.after.log plan states) (ends : c.Ends run plan states)
    (exposed : Exposes text) :
    (∃ entry ∈ run.entries, entry.Tells text) ↔ c.bucketName = some text ∨
      ∃ result, run.outcome = .ok result ∧ result.state = .rejected ∧
        ∃ v ∈ result.violations, v.path = text := by
  have name : run.after.bucketName = c.bucketName := congrArg Descriptor.name ends.descriptor
  have closing : (run.after.closingEntry (lastStage states) run.after.log.sorted).Tells text ↔ _ :=
    closingEntry_tells_iff exposed
  rw [name, ends.turnedDown_iff course] at closing
  rw [ends.entries, ← closing]
  constructor
  · rintro ⟨entry, member, told⟩
    rcases List.mem_append.mp member with early | last
    · rcases List.mem_cons.mp early with rfl | remark
      · exact closing.mpr (Or.inl ((startEntry_tells_iff exposed).mp told))
      · exact absurd told (not_tells_remarksOf remark)
    · rwa [List.mem_singleton.mp last] at told
  · intro told
    exact ⟨_, List.mem_append_right _ List.mem_cons_self, told⟩

end Compilation

/-- The texts that give away an account or a key and get into the log are the name of the bucket and
the paths of the violations that it is turned down for, and no others: messages never give anything
away, in whatever order the sensitive fields are redacted. -/
theorem compile_leaks_iff (value : Value) (options : Options) (order : FieldOrder) (text : String) :
    (compile value options order).Leaks text ↔ Exposes text ∧
      ((Descriptor.ofValue value).name = some text ∨
        ∃ result, (compile value options order).outcome = .ok result ∧ result.state = .rejected ∧
          ∃ v ∈ result.violations, v.path = text) := by
  obtain ⟨plan, states, course, ends⟩ :=
    Compilation.run_ends (Compilation.isFresh_ofValue value options order)
  exact and_congr_right fun exposed => ends.tells_iff course exposed

/-- A bucket that announces uploads to a queue, but names no event to announce. -/
def idleUploads : Value :=
  .record [("name", .str "uploads"), ("notifications", .record [("destinations", .record
    [("arn:aws:sqs:us-east-1:123456789012:uploads", .list [.record [("events", .list [])]])])])]

/-- Where the events are missing. -/
def idleUploadsPath : String :=
  "notifications.destinations.arn:aws:sqs:us-east-1:123456789012:uploads.0.events"

/-- The queue stands in the path of the violation, and with it the account it belongs to. -/
theorem compile_idleUploads_leaks : (compile idleUploads).Leaks idleUploadsPath := by
  have exposed : Exposes idleUploadsPath := by
    refine Or.inl ⟨"notifications.destinations.arn:aws:sqs:us-east-1:".toList, "123456789012".toList,
      ":uploads.0.events".toList, ?_⟩
    decide +kernel
  have turnedDown : ((compile idleUploads).outcome.toOption.any fun result =>
      result.state == .rejected && result.violations.any fun v => v.path == idleUploadsPath) = true := by
    decide +kernel
  obtain ⟨plan, states, course, ends⟩ :=
    Compilation.run_ends (Compilation.isFresh_ofValue idleUploads {})
  refine ⟨exposed, (ends.tells_iff course exposed).mpr (Or.inr ?_)⟩
  change ∃ result, (compile idleUploads).outcome = .ok result ∧ _
  cases outcome : (compile idleUploads).outcome with
  | error fault =>
    rw [outcome] at turnedDown
    cases turnedDown
  | ok result =>
    rw [outcome] at turnedDown
    simp only [Except.toOption, Option.any_some, Bool.and_eq_true, List.any_eq_true, beq_iff_eq]
      at turnedDown
    exact ⟨result, rfl, turnedDown⟩

end BucketPlan
