import BucketPlan.Proofs.Origin.Names

namespace BucketPlan

variable {names : String → Prop}

theorem tracesTo_dottedPath {first second : String} (traces : TracesTo names first)
    (other : TracesTo names second) : TracesTo names (dottedPath [first, second]) := by
  by_cases noFirst : first = ""
  · by_cases noSecond : second = ""
    · simpa [dottedPath, noFirst, noSecond] using traces
    · simpa [dottedPath, noFirst, noSecond] using other
  · by_cases noSecond : second = ""
    · simpa [dottedPath, noFirst, noSecond] using traces
    · simpa [dottedPath, noFirst, noSecond, String.append_assoc] using traces.dot other

namespace Place

/-- The odd numbers of a place are parts of names. -/
structure IsTraced (names : String → Prop) (place : Place) : Prop where
  area : TracesTo names place.area
  rule : TracesTo names place.rule
  field : TracesTo names place.field

variable {place : Place} {name : String}

theorem IsTraced.member (traced : place.IsTraced names) (inName : TracesTo names name) :
    (place.member name).IsTraced names := by
  unfold Place.member
  split
  · exact ⟨inName, tracesTo_empty, tracesTo_empty⟩
  · split
    · exact ⟨traced.area, traced.rule, inName⟩
    · exact ⟨traced.area, traced.rule, traced.field.dot inName⟩

theorem IsTraced.entry (traced : place.IsTraced names) (inName : TracesTo names name) :
    (place.entry name).IsTraced names :=
  ⟨tracesTo_dottedPath traced.area traced.field, inName, tracesTo_empty⟩

end Place

/-- An error at a place whose odd numbers are parts of names. -/
def Violation.IsMismatch (names : String → Prop) (v : Violation) : Prop :=
  ∃ place : Place, place.IsTraced names ∧ ∃ message, v = place.violation message

theorem Place.IsTraced.isMismatch {place : Place} (traced : place.IsTraced names) {message : String}
    {v : Violation} (member : v ∈ [place.violation message]) : v.IsMismatch names :=
  ⟨place, traced, message, List.mem_singleton.mp member⟩

namespace Violation.IsMismatch

variable {v : Violation}

theorem isError (mismatch : v.IsMismatch names) : v.isError = true := by
  obtain ⟨place, _, message, rfl⟩ := mismatch
  rfl

theorem isTraced (mismatch : v.IsMismatch names) : v.IsTraced names := by
  obtain ⟨place, traced, message, rfl⟩ := mismatch
  exact ⟨traced.area, traced.rule, traced.field⟩

end Violation.IsMismatch

namespace Value

theorem mem_flatMap_indexed {items : List Value} {check : String × Value → List Violation}
    {v : Violation} (member : v ∈ (indexed items).flatMap check) :
    ∃ index item, IsPlain index ∧ item ∈ items ∧ v ∈ check (index, item) := by
  obtain ⟨entry, inIndexed, inItem⟩ := List.mem_flatMap.mp member
  obtain ⟨⟨item, i⟩, zipped, rfl⟩ := List.mem_map.mp inIndexed
  exact ⟨toString i, item, isPlain_toString i, List.fst_mem_of_mem_zipIdx zipped, inItem⟩

theorem HasName.of_pair {first second name : String} {a b : Value}
    (has : (record [(first, a), (second, b)]).HasName name) :
    name = first ∨ name = second ∨ a.HasName name ∨ b.HasName name := by
  have named : (record [(first, a), (second, b)]).namedEntries = [(first, a), (second, b)] := rfl
  cases has with
  | key entry =>
    rw [named] at entry
    simp only [List.mem_cons, Prod.mk.injEq, List.not_mem_nil, or_false] at entry
    rcases entry with ⟨same, _⟩ | ⟨same, _⟩
    · exact Or.inl same
    · exact Or.inr (Or.inl same)
  | inEntry entry inside =>
    rw [named] at entry
    simp only [List.mem_cons, Prod.mk.injEq, List.not_mem_nil, or_false] at entry
    rcases entry with ⟨_, same⟩ | ⟨_, same⟩
    · exact Or.inr (Or.inr (Or.inl (same ▸ inside)))
    · exact Or.inr (Or.inr (Or.inr (same ▸ inside)))
  | inItem sequence => cases sequence

end Value

namespace Shape

/-- Whether all members are named in plain characters. -/
def HasPlainNames : Shape → Prop
  | text => True
  | integer => True
  | boolean => True
  | optional shape => shape.HasPlainNames
  | unlessUntrue shape => shape.HasPlainNames
  | record members => members.HasPlainNames
  | member name shape others => IsPlain name ∧ shape.HasPlainNames ∧ others.HasPlainNames
  | noMore => True
  | listOf shape => shape.HasPlainNames
  | listOfEntries shape => shape.HasPlainNames
  | oneOrMore shape => shape.HasPlainNames
  | fields shape => shape.HasPlainNames
  | entries shape => shape.HasPlainNames
  | pair first second members => IsPlain first ∧ IsPlain second ∧ members.HasPlainNames

/-- Whatever has not the form of its shape is reported as an error, at a place that is named by the
shape, by indices and by the value. -/
theorem isMismatch_of_mem {shape : Shape} (plain : shape.HasPlainNames) {place : Place}
    (traced : place.IsTraced names) {value : Value}
    (known : ∀ name, value.HasName name → TracesTo names name) {v : Violation}
    (member : v ∈ shape.mismatches place value) : v.IsMismatch names := by
  induction shape generalizing place value with
  | text | integer | boolean =>
    unfold mismatches at member
    split at member
    · cases member
    · exact traced.isMismatch member
  | optional shape ih =>
    unfold mismatches at member
    split at member
    · cases member
    · exact ih plain traced known member
  | unlessUntrue shape ih =>
    unfold mismatches at member
    split at member
    · exact ih plain traced known member
    · cases member
  | record members ih =>
    unfold mismatches at member
    split at member
    · exact ih plain traced known member
    · exact traced.isMismatch member
  | member name shape others ih ihOthers =>
    unfold mismatches at member
    obtain ⟨plainName, plainShape, plainOthers⟩ := plain
    rcases List.mem_append.mp member with own | other
    · exact ih plainShape (traced.member plainName.tracesTo) (fun name has => known name has.of_get) own
    · exact ihOthers plainOthers traced known other
  | noMore => cases member
  | listOf shape ih =>
    unfold mismatches at member
    split at member
    · rename_i items sequence
      obtain ⟨index, item, plainIndex, among, inItem⟩ := Value.mem_flatMap_indexed member
      exact ih plain (traced.member plainIndex.tracesTo)
        (fun name has => known name (.inItem sequence among has)) inItem
    · exact traced.isMismatch member
  | listOfEntries shape ih =>
    unfold mismatches at member
    split at member
    · rename_i items sequence
      obtain ⟨index, item, plainIndex, among, inItem⟩ := Value.mem_flatMap_indexed member
      exact ih plain (traced.entry plainIndex.tracesTo)
        (fun name has => known name (.inItem sequence among has)) inItem
    · exact traced.isMismatch member
  | oneOrMore shape ih =>
    unfold mismatches at member
    split at member
    · exact ih plain (traced.member (.ofList rfl)) known member
    · split at member
      · rename_i items sequence
        obtain ⟨index, item, plainIndex, among, inItem⟩ := Value.mem_flatMap_indexed member
        exact ih plain (traced.member plainIndex.tracesTo)
          (fun name has => known name (.inItem sequence among has)) inItem
      · exact traced.isMismatch member
  | fields shape ih =>
    unfold mismatches at member
    split at member
    · obtain ⟨⟨name, item⟩, entry, inItem⟩ := List.mem_flatMap.mp member
      exact ih plain (traced.member (known name (.key entry)))
        (fun other has => known other (.inEntry entry has)) inItem
    · exact traced.isMismatch member
  | entries shape ih =>
    unfold mismatches at member
    split at member
    · obtain ⟨⟨name, item⟩, entry, inItem⟩ := List.mem_flatMap.mp member
      exact ih plain (traced.entry (known name (.key entry)))
        (fun other has => known other (.inEntry entry has)) inItem
    · exact traced.isMismatch member
  | pair first second members ih =>
    unfold mismatches at member
    obtain ⟨plainFirst, plainSecond, plainMembers⟩ := plain
    split at member
    · rename_i a b sequence
      refine ih plainMembers traced (fun name has => ?_) member
      rcases has.of_pair with rfl | rfl | inFirst | inSecond
      · exact plainFirst.tracesTo
      · exact plainSecond.tracesTo
      · exact known name (.inItem sequence (by simp) inFirst)
      · exact known name (.inItem sequence (by simp) inSecond)
    · exact traced.isMismatch member
    · split at member
      · exact ih plainMembers traced known member
      · exact traced.isMismatch member

end Shape

namespace Descriptor

theorem hasPlainNames_shape : shape.HasPlainNames := by
  simp only [shape, ObjectLock.shape, Retention.shape, Encryption.shape, PublicAccess.shape,
    CorsRule.shape, Website.shape, Redirect.shape, StaticSite.shape, RoutingRule.shape,
    Notifications.shape, Subscription.shape, LifecycleRule.shape, ObjectFilter.shape, Transition.shape,
    NoncurrentTransition.shape, Expiration.shape, NoncurrentExpiration.shape, Replication.shape,
    ReplicationRule.shape, EncryptedReplicas.shape, OwnershipTransfer.shape, ReplicationFeatures.shape,
    InventoryRule.shape, InventoryDestination.shape, TieringRule.shape, Shape.recordOf, Shape.texts,
    List.foldr_cons, List.foldr_nil, Shape.HasPlainNames, and_true, true_and]
  and_intros <;> exact .ofList rfl

theorem isMismatch_of_mem {value : Value} {v : Violation} (member : v ∈ mismatches value) :
    v.IsMismatch value.HasName :=
  Shape.isMismatch_of_mem hasPlainNames_shape ⟨tracesTo_empty, tracesTo_empty, tracesTo_empty⟩
    (fun _ has => tracesTo_of_name has) member

end Descriptor

end BucketPlan
