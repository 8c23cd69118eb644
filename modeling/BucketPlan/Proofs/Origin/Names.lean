import BucketPlan.Proofs.Origin.Plans
import BucketPlan.Proofs.Planning

namespace BucketPlan

namespace Keyed

variable {α : Type}

theorem mem_putEntry {name : String} {value : α} {entries : List (String × α)} {entry : String × α}
    (member : entry ∈ putEntry name value entries) : entry = (name, value) ∨ entry ∈ entries := by
  induction entries with
  | nil => exact Or.inl (List.mem_singleton.mp member)
  | cons first rest ih =>
    obtain ⟨other, old⟩ := first
    rw [putEntry] at member
    split at member
    · exact (List.mem_cons.mp member).imp_right (List.mem_cons_of_mem _)
    · rcases List.mem_cons.mp member with same | later
      · exact Or.inr (same ▸ List.mem_cons_self)
      · exact (ih later).imp_right (List.mem_cons_of_mem _)

theorem mem_foldl_put {entries : List (String × α)} {map : Keyed α} {entry : String × α}
    (member : entry ∈ (entries.foldl (fun map (name, value) => map.put name value) map).entries) :
    entry ∈ map.entries ∨ entry ∈ entries := by
  induction entries generalizing map with
  | nil => exact Or.inl member
  | cons first rest ih =>
    rcases ih member with early | late
    · rcases mem_putEntry early with same | old
      · exact Or.inr (same ▸ List.mem_cons_self)
      · exact Or.inl old
    · exact Or.inr (List.mem_cons_of_mem _ late)

/-- A map read from a list holds nothing but entries of the list. -/
theorem mem_of_mem_ofList {entries : List (String × α)} {entry : String × α}
    (member : entry ∈ (ofList entries).entries) : entry ∈ entries :=
  (mem_foldl_put member).resolve_left List.not_mem_nil

end Keyed

namespace Value

/-- A name that stands as a key anywhere in a value. -/
inductive HasName : Value → String → Prop
  | key {value item : Value} {name : String} (entry : (name, item) ∈ value.namedEntries) :
      HasName value name
  | inEntry {value item : Value} {key name : String} (entry : (key, item) ∈ value.namedEntries)
      (inside : HasName item name) : HasName value name
  | inItem {value item : Value} {items : List Value} {name : String}
      (sequence : value.sequence? = some items) (member : item ∈ items)
      (inside : HasName item name) : HasName value name

theorem not_hasName_null {name : String} : ¬null.HasName name := by
  intro has
  cases has with
  | key entry => cases entry
  | inEntry entry => cases entry
  | inItem sequence => cases sequence

theorem lookup_eq_null_or_mem (name : String) (entries : List (Value × Value)) :
    lookup name entries = null ∨ ∃ key, (key, lookup name entries) ∈ entries := by
  induction entries with
  | nil => exact Or.inl rfl
  | cons first rest ih =>
    have later : lookup name rest = null ∨ ∃ key, (key, lookup name rest) ∈ first :: rest := by
      rcases ih with absent | ⟨key, member⟩
      · exact Or.inl absent
      · exact Or.inr ⟨key, List.mem_cons_of_mem first member⟩
    rw [lookup.eq_def]
    split
    · exact Or.inl rfl
    · rename_i same
      cases same
      split
      · exact Or.inr ⟨_, List.mem_cons_self⟩
      · exact later
    · rename_i same
      cases same
      exact later

theorem HasName.of_get {value : Value} {member name : String} (has : (value.get member).HasName name) :
    value.HasName name := by
  unfold get at has
  split at has
  · rename_i entries
    rcases lookup_eq_null_or_mem member entries with absent | ⟨key, found⟩
    · exact absurd (absent ▸ has) not_hasName_null
    · exact .inEntry (List.mem_map_of_mem found) has
  · exact absurd has not_hasName_null

theorem mem_keyed {α : Type} {read : Value → Option α} {value : Value} {name : String} {a : α}
    (member : (name, a) ∈ (value.keyed read).entries) :
    ∃ item, (name, item) ∈ value.namedEntries ∧ read item = some a := by
  obtain ⟨⟨key, item⟩, entry, kept⟩ := List.mem_filterMap.mp (Keyed.mem_of_mem_ofList member)
  obtain ⟨found, returned, same⟩ := Option.map_eq_some_iff.mp kept
  cases same
  exact ⟨item, entry, returned⟩

theorem hasName_of_mem_keyed {α : Type} {read : Value → Option α} {value : Value} {name : String}
    (member : name ∈ (value.keyed read).names) : value.HasName name := by
  obtain ⟨⟨name, a⟩, inEntries, rfl⟩ := List.mem_map.mp member
  obtain ⟨item, entry, _⟩ := mem_keyed inEntries
  exact .key entry

theorem eq_of_mem_record? {α : Type} {read : Value → α} {value : Value} {a : α}
    (member : a ∈ value.record? read) : a = read value := by
  unfold record? at member
  split at member
  · cases member
    rfl
  · cases member

end Value

namespace Descriptor

/-- A description in which whatever is keyed is keyed by the names given. -/
structure IsNamedBy (d : Descriptor) (names : String → Prop) : Prop where
  tags : ∀ key ∈ d.tags.names, names key
  lifecycle : ∀ name ∈ d.lifecycleRules.names, names name
  replication : ∀ replication ∈ d.replication, ∀ name ∈ replication.rules.names, names name
  notifications : ∀ notifications ∈ d.notifications,
    ∀ address ∈ notifications.destinations.names, names address
  inventory : ∀ name ∈ d.inventoryRules.names, names name
  tiering : ∀ name ∈ d.tieringRules.names, names name
  tiers : ∀ rule ∈ d.tieringRules.values, ∀ tier ∈ rule.tierings.names, names tier

variable {d : Descriptor} {names : String → Prop}

theorem isNamedBy_ofValue (value : Value) : (ofValue value).IsNamedBy value.HasName where
  tags _ member := (Value.hasName_of_mem_keyed member).of_get
  lifecycle _ member := (Value.hasName_of_mem_keyed member).of_get
  replication replication given name member := by
    cases Value.eq_of_mem_record? given
    exact (Value.hasName_of_mem_keyed member).of_get.of_get
  notifications notifications given address member := by
    cases Value.eq_of_mem_record? given
    exact (Value.hasName_of_mem_keyed member).of_get.of_get
  inventory _ member := (Value.hasName_of_mem_keyed member).of_get
  tiering _ member := (Value.hasName_of_mem_keyed member).of_get
  tiers rule given tier member := by
    obtain ⟨⟨name, rule⟩, inEntries, rfl⟩ := List.mem_map.mp given
    obtain ⟨item, entry, returned⟩ := Value.mem_keyed inEntries
    cases Value.eq_of_mem_record? returned
    exact .of_get (.inEntry entry (Value.hasName_of_mem_keyed member).of_get)

theorem IsNamedBy.resolve (named : d.IsNamedBy names) : d.resolve.IsNamedBy names where
  tags := named.tags
  lifecycle := named.lifecycle
  replication replication given name member := by
    obtain ⟨original, present, rfl⟩ := Option.map_eq_some_iff.mp given
    simp only [Replication.resolve, Keyed.names, Keyed.mapValues, List.map_map] at member
    exact named.replication original present name member
  notifications notifications given address member := by
    obtain ⟨original, present, rfl⟩ := Option.map_eq_some_iff.mp given
    exact named.notifications original present address member
  inventory name member := by
    simp only [Descriptor.resolve, Keyed.names, Keyed.mapValues, List.map_map] at member
    exact named.inventory name member
  tiering := named.tiering
  tiers := named.tiers

theorem IsNamedBy.traced_allFindings (named : d.IsNamedBy names) : Traced names d.allFindings := by
  refine reportsOnly_flatMap.mpr fun concern _ => ?_
  cases concern with
  | name => exact BucketName.traced_findings
  | tags => exact traced_tagFindings named.tags
  | objectLock => exact ObjectLock.traced_findings
  | encryption => exact reportsOnly_flatMap.mpr fun _ _ => Encryption.traced_findings
  | ownership => exact traced_ownershipFindings
  | requesterPays => exact traced_requesterPaysFindings
  | website => exact reportsOnly_flatMap.mpr fun _ _ => Website.traced_findings
  | cors => exact CorsRule.traced_allFindings
  | replication =>
    exact reportsOnly_flatMap.mpr fun replication given =>
      Replication.traced_findings (named.replication replication (Option.mem_toList.mp given))
  | notifications =>
    exact reportsOnly_flatMap.mpr fun notifications given =>
      Notifications.traced_findings (named.notifications notifications (Option.mem_toList.mp given))

theorem IsNamedBy.traced_ruleFindings (named : d.IsNamedBy names) (options : Options) :
    Traced names (d.ruleFindings options) := by
  refine reportsOnly_flatMap.mpr fun stage _ => ?_
  cases stage with
  | lifecycle => exact LifecyclePlan.traced_findings named.lifecycle
  | replication =>
    exact reportsOnly_flatMap.mpr fun replication given =>
      Replication.traced_planFindings (named.replication replication (Option.mem_toList.mp given))
  | notification =>
    exact reportsOnly_flatMap.mpr fun notifications given =>
      Notifications.traced_planFindings (named.notifications notifications (Option.mem_toList.mp given))
  | inventory => exact InventoryPlan.traced_findings named.inventory
  | tiering => exact TieringPlan.traced_findings named.tiering named.tiers
  | validate => exact reportsOnly_nil
  | defaults => exact reportsOnly_nil

end Descriptor

end BucketPlan
