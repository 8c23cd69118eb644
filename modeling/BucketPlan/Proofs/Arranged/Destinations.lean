import BucketPlan.Proofs.Arranged.Planning

namespace BucketPlan

theorem map_filterMap_of_some {α β γ : Type} {items : List α} {pick : α → Option β} {seen : β → γ}
    {name : α → γ} (picked : ∀ item ∈ items, (pick item).map seen = some (name item)) :
    (items.filterMap pick).map seen = items.map name := by
  rw [List.map_filterMap, List.filterMap_congr picked, List.filterMap_eq_map']

namespace Value

theorem get_of_not_isMap {value : Value} (other : value.isMap = false) (key : String) :
    value.get key = null := by
  cases value with
  | map => cases other
  | _ => rfl

theorem namedEntries_of_not_isMap {value : Value} (other : value.isMap = false) :
    value.namedEntries = [] := by
  cases value with
  | map => cases other
  | _ => rfl

theorem namedEntries_of_not_isTrue {value : Value} (untrue : value.isTrue = false) :
    value.namedEntries = [] := by
  cases value with
  | map entries =>
    have empty : entries = [] := by simpa [isTrue] using untrue
    rw [empty]
    rfl
  | _ => rfl

theorem RearrangesBy.distinct {related : Value → Value → Prop} {v w : Value}
    (rearranged : RearrangesBy related v w) :
    (v.namedEntries.map Prod.fst).Nodup ∧ (w.namedEntries.map Prod.fst).Nodup := by
  rcases rearranged.cases with ⟨_, _, distinct, reordered⟩ | ⟨other, rfl⟩
  · exact ⟨distinct, reordered.names_perm.nodup_iff.mp distinct⟩
  · rw [namedEntries_of_not_isMap other]
    exact ⟨.nil, .nil⟩

theorem names_readings {α : Type} {read : Value → Option α} {value : Value}
    (readable : ∀ entry ∈ value.namedEntries, (read entry.2).isSome = true) :
    (value.readings read).map Prod.fst = value.namedEntries.map Prod.fst := by
  refine map_filterMap_of_some fun entry member => ?_
  obtain ⟨item, found⟩ := Option.isSome_iff_exists.mp (readable entry member)
  rw [found]
  rfl

/-- The addresses that a description gives its destinations under. -/
def destinationNames (value : Value) : List String :=
  ((value.get "notifications").get "destinations").namedEntries.map Prod.fst

end Value

namespace Shape

/-- What is wrong with a member is wrong with the record. -/
theorem mismatches_member_sublist {members : List (String × Shape)} {name : String} {shape : Shape}
    (member : (name, shape) ∈ members) {value : Value} (isMap : value.isMap = true) (place : Place) :
    (shape.mismatches (place.member name) (value.get name)).Sublist
      ((recordOf members).mismatches place value) := by
  rw [recordOf, mismatches, if_pos isMap]
  induction members with
  | nil => cases member
  | cons first others ih =>
    rw [List.foldr_cons, mismatches]
    cases member with
    | head => exact List.sublist_append_left _ _
    | tail _ later => exact (ih later).trans (List.sublist_append_right _ _)

theorem mismatches_get_eq_nil {members : List (String × Shape)} {place : Place} {value : Value}
    (fits : (recordOf members).mismatches place value = []) {name : String} {shape : Shape}
    (member : (name, shape) ∈ members) :
    value.isMap = true ∧ shape.mismatches (place.member name) (value.get name) = [] := by
  have isMap : value.isMap = true := by
    rw [recordOf, mismatches] at fits
    split at fits
    · assumption
    · cases fits
  have part := mismatches_member_sublist member isMap place
  rw [fits] at part
  exact ⟨isMap, List.sublist_nil.mp part⟩

end Shape

theorem Subscription.isSome_ofValues? {place : Place} {value : Value}
    (fits : (Shape.oneOrMore shape).mismatches place value = []) : (ofValues? value).isSome = true := by
  rw [Shape.mismatches] at fits
  split at fits
  · rename_i single
    have isMap : value.isMap = true := single
    rw [ofValues?, if_pos isMap]
    rfl
  · split at fits
    · rename_i items found
      rw [ofValues?, found]
      split <;> rfl
    · cases fits

theorem Notifications.readable_destinations {place : Place} {value : Value}
    (fits : (Shape.optional shape).mismatches place value = []) :
    ∀ entry ∈ (value.get "destinations").namedEntries,
      (Subscription.ofValues? entry.2).isSome = true := by
  intro entry member
  rw [Shape.mismatches] at fits
  split at fits
  · rename_i null
    cases value with
    | null => cases member
    | _ => cases null
  · obtain ⟨_, destinations⟩ := Shape.mismatches_get_eq_nil fits List.mem_cons_self
    rw [Shape.mismatches] at destinations
    split at destinations
    · rw [Shape.mismatches] at destinations
      split at destinations
      · exact Subscription.isSome_ofValues? (List.flatMap_eq_nil_iff.mp destinations entry member)
      · cases destinations
    · rename_i untrue
      rw [Value.namedEntries_of_not_isTrue (Bool.eq_false_iff.mpr untrue)] at member
      cases member

namespace Descriptor

theorem distinct_destinationNames {v w : Value} (rearranged : shape.Rearranges v w) :
    v.destinationNames.Nodup ∧ w.destinationNames.Nodup := by
  have none {value : Value} (other : value.isMap = false) :
      (value.get "destinations").namedEntries = [] := by
    rw [Value.get_of_not_isMap other]
    rfl
  rw [Value.destinationNames, Value.destinationNames]
  rcases rearranged.cases_record with ⟨_, _, members⟩ | ⟨fixed | other, rfl⟩
  · obtain ⟨_, _, _, _, _, _, _, _, _, _, _, _, _, _, ⟨_, notifications⟩, _⟩ := members
    rcases notifications.cases_record with ⟨_, _, members⟩ | ⟨fixed | other, same⟩
    · obtain ⟨⟨_, destinations⟩, _⟩ := members
      exact destinations.distinct
    · cases fixed
    · rw [same, none other]
      exact ⟨.nil, .nil⟩
  · cases fixed
  · rw [Value.get_of_not_isMap other, none rfl]
    exact ⟨.nil, .nil⟩

def destinationNames (d : Descriptor) : List String :=
  d.notifications.toList.flatMap fun notifications => notifications.destinations.names

/-- In a description without mismatches all destinations are read, in the order of their entries. -/
theorem destinationNames_ofValue {value : Value} (fits : mismatches value = [])
    (distinct : value.destinationNames.Nodup) :
    (ofValue value).destinationNames = value.destinationNames := by
  have known : (Shape.optional Notifications.shape).mismatches (Place.member {} "notifications")
      (value.get "notifications") = [] := (Shape.mismatches_get_eq_nil fits (by simp)).2
  have read : (ofValue value).notifications =
      (value.get "notifications").record? Notifications.ofValue := rfl
  rw [destinationNames, read, Value.record?, Value.destinationNames]
  split
  · have entries := @Value.entries_keyed _ Subscription.ofValues? _ distinct
    rw [Option.toList_some, List.flatMap_singleton, Keyed.names, Notifications.ofValue, entries,
      Value.names_readings (Notifications.readable_destinations known)]
  · rename_i other
    rw [Value.get_of_not_isMap (Bool.eq_false_iff.mpr other)]
    rfl

end Descriptor

/-- The addresses of the destinations of a plan. -/
def Plan.destinationAddresses (p : Plan) : List String :=
  p.notifications.toList.flatMap fun notifications =>
    notifications.destinations.map DestinationPlan.address

/-- A plan has the destinations that were asked for in the order of the description, once their
kinds are known. -/
theorem Notifications.addresses_plan {notifications : Notifications}
    (passes : Passes notifications.findings) :
    notifications.plan.destinations.map DestinationPlan.address = notifications.destinations.names := by
  rw [plan, List.map_map]
  refine map_filterMap_of_some fun entry member => ?_
  have known := reportsOnly_flatMap.mp passes entry.1 (List.mem_map_of_mem member)
  obtain ⟨address, subscriptions⟩ := entry
  dsimp only at known ⊢
  cases kind : DestinationKind.ofAddress? address with
  | none =>
    rw [kind] at known
    exact absurd known Scope.passes_error
  | some kind => rfl

theorem Descriptor.destinationAddresses_of_plan {d : Descriptor} {rules : Option ReplicationPlan}
    {p : Plan} (passes : Passes d.allFindings)
    (made : d.resolve.plan (d.resolve.rulePlans rules) = .ok p) :
    p.destinationAddresses = d.destinationNames := by
  obtain ⟨website, _, ended⟩ := steps_of_bind_ok made
  cases ended
  have checked : Passes (d.findings .notifications) := d.passes_concern passes .notifications
  have planned : (d.resolve.rulePlans rules).notifications =
      d.notifications.map fun n => n.resolve.plan := by
    rw [rulePlans, resolve, Option.map_map]
    rfl
  rw [Plan.destinationAddresses, planned, destinationNames]
  cases given : d.notifications with
  | none => rfl
  | some notifications =>
    have own := reportsOnly_flatMap.mp checked notifications (Option.mem_toList.mpr given)
    rw [Option.map_some, Option.toList_some, Option.toList_some, List.flatMap_singleton,
      List.flatMap_singleton]
    exact @Notifications.addresses_plan notifications.resolve own

end BucketPlan
