import BucketPlan.Proofs.Removal.Plans

namespace BucketPlan

theorem Keyed.names_mapValues {α β : Type} (f : String → α → β) (map : Keyed α) :
    (map.mapValues f).names = map.names := by
  rw [names, entries_mapValues, List.map_map]
  rfl

namespace Replication

theorem names_plan {replication : Replication} {p : ReplicationPlan} (made : replication.plan = .ok p) :
    (p.rules.map ReplicationRulePlan.name).Perm replication.rules.names := by
  obtain ⟨_, _, rest⟩ := steps_of_bind_ok made
  obtain ⟨plans, planned, ended⟩ := steps_of_bind_ok rest
  cases ended
  have names : plans.map ReplicationRulePlan.name = replication.rules.names := names_of_plans planned
  exact ((List.mergeSort_perm plans _).map _).trans (.of_eq names)

theorem names_ofValue {value : Value} (fits : (Shape.optional shape).Fits value)
    (distinct : (value.get "rules").names.Nodup) :
    ((value.record? ofValue).toList.flatMap fun replication => replication.rules.names) =
      (value.get "rules").names := by
  rcases fits.cases_optional with rfl | own
  · rfl
  · have rules := own.get (List.mem_cons_of_mem _ List.mem_cons_self)
    rw [Value.record?, if_pos own.isMap, Option.toList_some, List.flatMap_singleton]
    exact rules.names_keyed_record distinct

end Replication

/-- The names of the rules for replicas in a plan. -/
def Plan.replicationNames (p : Plan) : List String :=
  p.replication.toList.flatMap fun replication => replication.rules.map ReplicationRulePlan.name

/-- A plan of the tags, rules and destinations that a value lists, of all of them and of no others. Tags
and rules for replicas are in an order of their own, all else in that of the value. -/
structure Plan.Lists (p : Plan) (value : Value) : Prop where
  tags : (p.tags.map Prod.fst).Perm (value.get "tags").names
  corsRules : p.corsRules =
    ((value.get "cors_rules").sequence?.getD []).map fun item => (CorsRule.ofValue item).normalize
  lifecycleRules : p.lifecycleRules.names = (value.get "lifecycle_rules").names
  replicationRules : p.replicationNames.Perm ((value.get "replication").get "rules").names
  destinations : p.destinationAddresses = ((value.get "notifications").get "destinations").names
  inventoryRules : p.inventoryRules.names = (value.get "inventory_rules").names
  tieringRules : p.tieringRules.names = (value.get "intelligent_tiering_rules").names

namespace Descriptor

theorem replicationNames_of_plan {d : Descriptor} {rules : Option ReplicationPlan} {p : Plan}
    (replicated : d.resolve.replicationPlan = .ok rules)
    (made : d.resolve.plan (d.resolve.rulePlans rules) = .ok p) :
    p.replicationNames.Perm (d.replication.toList.flatMap fun replication => replication.rules.names) := by
  have followed : p.replication = rules := by
    obtain ⟨website, _, ended⟩ := steps_of_bind_ok made
    cases ended
    rfl
  rw [replicationPlan, resolve] at replicated
  rw [Plan.replicationNames, followed]
  cases given : d.replication with
  | none =>
    rw [given] at replicated
    cases replicated
    exact .refl _
  | some replication =>
    rw [given] at replicated
    cases planned : replication.resolve.plan with
    | error fault =>
      simp only [Option.map_some, planned] at replicated
      cases replicated
    | ok plan =>
      simp only [Option.map_some, planned] at replicated
      cases replicated
      have names := Replication.names_plan planned
      rw [Replication.resolve, Keyed.names_mapValues] at names
      simpa using names

/-- A description without mismatches whose entries have names of their own is planned in full. -/
theorem lists_of_plan {value : Value} (fits : shape.Fits value) (distinct : value.HasDistinctNames)
    (passes : Passes (ofValue value).allFindings) {rules : Option ReplicationPlan} {p : Plan}
    (replicated : (ofValue value).resolve.replicationPlan = .ok rules)
    (made : (ofValue value).resolve.plan ((ofValue value).resolve.rulePlans rules) = .ok p) :
    p.Lists value := by
  have replicas := replicationNames_of_plan replicated made
  have addresses := destinationAddresses_of_plan passes made
  rw [destinationNames_ofValue (fits {}) distinct.destinations] at addresses
  obtain ⟨website, _, ended⟩ := steps_of_bind_ok made
  cases ended
  have ofReplication : (Shape.optional Replication.shape).Fits (value.get "replication") :=
    fits.get (by simp)
  have ofTags : (Shape.optional (.entries .text)).Fits (value.get "tags") := fits.get (by simp)
  have ofRules : (Shape.optional (.listOfEntries CorsRule.shape)).Fits (value.get "cors_rules") :=
    fits.get (by simp)
  have ofLifecycle : (Shape.optional (.entries LifecycleRule.shape)).Fits (value.get "lifecycle_rules") :=
    fits.get (by simp)
  have ofInventory : (Shape.optional (.entries InventoryRule.shape)).Fits (value.get "inventory_rules") :=
    fits.get (by simp)
  have ofTiering : (Shape.optional (.entries TieringRule.shape)).Fits
      (value.get "intelligent_tiering_rules") := fits.get (by simp)
  refine ⟨?_, ?_, ?_, ?_, addresses, ?_, ?_⟩
  · have names : (value.get "tags").textMap.names = (value.get "tags").names :=
      ofTags.names_keyed distinct.tags fun _ => Shape.Fits.isSome_text?
    exact ((value.get "tags").textMap.sorted_perm.map Prod.fst).trans (.of_eq names)
  · have read : (ofValue value).corsRules = _ := ofRules.records_eq_map
    have planned := congrArg (List.map CorsRule.normalize) read
    rwa [List.map_map] at planned
  · exact (Keyed.names_mapValues _ _).trans (ofLifecycle.names_keyed_record distinct.lifecycleRules)
  · exact replicas.trans
      (.of_eq (Replication.names_ofValue ofReplication distinct.replicationRules))
  · refine (Keyed.names_mapValues _ _).trans ((Keyed.names_mapValues _ _).trans ?_)
    exact ofInventory.names_keyed_record distinct.inventoryRules
  · exact (Keyed.names_mapValues _ _).trans (ofTiering.names_keyed_record distinct.tieringRules)

end Descriptor

end BucketPlan
