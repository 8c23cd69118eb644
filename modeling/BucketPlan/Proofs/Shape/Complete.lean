import BucketPlan.Proofs.Shape.Lenient
import BucketPlan.Proofs.Shape.Path
import BucketPlan.Proofs.Shape.Reported

namespace BucketPlan

namespace Descriptor

/-- A description is complained of at the end of a trail if what stands there is of another kind than
declared, unless it is untrue and goes for nothing there. -/
theorem mem_complaints_iff {value : Value} {trail : Trail} :
    trail ∈ shape.complaints value ↔ ∃ declared held, shape.Leads value trail declared held ∧
      declared.accepts held = false ∧ ¬(trail.IsLenient ∧ held.isTrue = false) := by
  rw [Shape.mem_complaints]
  refine exists_congr fun declared => exists_congr fun held => and_congr_right fun leads => ?_
  have overlooked := leads.overlooks_iff isOrderly_shape
  rw [← Trail.isLenient_iff, and_comm] at overlooked
  rw [← overlooked, Shape.complains, Bool.and_eq_true, Bool.not_eq_true', Bool.not_eq_true',
    Bool.not_eq_true]

/-- What a trail into a description leads to has the path of the trail. -/
theorem path_follow_of_leads {value held : Value} {trail : Trail} {declared : Shape}
    (leads : shape.Leads value trail declared held) :
    (Place.follow {} trail).path = trail.path :=
  leads.isSpelled isOrderly_shape Place.isSpelled_empty

/-- The complaints of a description stand at the paths of their trails. -/
theorem forall₂_paths (value : Value) : List.Forall₂
    (fun trail v => v.path = trail.path ∧ v.code = .outOfRange ∧ v.isError = true)
    (shape.complaints value) (mismatches value) := by
  have placed : List.Forall₂ _ (shape.complaints value) (mismatches value) :=
    Shape.forall₂_complaints isOrderly_shape {} value
  refine List.forall₂_iff_get.mpr ⟨placed.length_eq, fun i inTrails inLog => ?_⟩
  obtain ⟨message, found⟩ := placed.get inTrails inLog
  obtain ⟨_, _, leads, _⟩ := mem_complaints_iff.mp (List.get_mem _ ⟨i, inTrails⟩)
  rw [found]
  exact ⟨path_follow_of_leads leads, rfl, rfl⟩

theorem leads_of_mem_mismatches {value : Value} {v : Violation} (member : v ∈ mismatches value) :
    ∃ trail declared held, shape.Leads value trail declared held ∧ declared.accepts held = false ∧
      v.path = trail.path ∧ v.code = .outOfRange ∧ v.isError = true := by
  obtain ⟨trail, declared, held, message, leads, complaining, rfl⟩ :=
    Shape.leads_of_mem isOrderly_shape member
  exact ⟨trail, declared, held, leads, Shape.refuses_of_complains complaining,
    path_follow_of_leads leads, rfl, rfl⟩

/-- Reading a description complains exactly once of every value of another kind than the one declared
where it stands, by an error at the path that leads to it, and of nothing else. The exceptions are the
destinations of notifications and the tierings of a rule: whatever is untrue there goes for nothing. -/
theorem mismatches_complete (value : Value) : ∃ trails : List Trail,
    trails.Nodup ∧
    (∀ trail, trail ∈ trails ↔ ∃ declared held, shape.Leads value trail declared held ∧
      declared.accepts held = false ∧ ¬(trail.IsLenient ∧ held.isTrue = false)) ∧
    List.Forall₂ (fun trail v => v.path = trail.path ∧ v.code = .outOfRange ∧ v.isError = true)
      trails (mismatches value) :=
  ⟨shape.complaints value, Shape.nodup_complaints isOrderly_shape value, fun _ => mem_complaints_iff,
    forall₂_paths value⟩

/-- An empty list is no map of destinations, but is not complained of. -/
theorem mismatches_emptyListOfDestinations :
    let value : Value := .record [("name", .str "bucket-x"),
      ("notifications", .record [("destinations", .list [])])]
    (∃ declared, shape.Leads value [.member "notifications", .member "destinations"] declared
      (.list []) ∧ declared.accepts (.list []) = false) ∧ mismatches value = [] := by
  intro value
  have notifications : (⟨.member "notifications", .optional Notifications.shape,
      .record [("destinations", .list [])]⟩ : Part) ∈ shape.parts value :=
    List.mem_of_getElem? (i := 14) rfl
  have destinations : (⟨.member "destinations",
      .unlessUntrue (.entries (.oneOrMore Subscription.shape)), .list []⟩ : Part) ∈ (Shape.optional Notifications.shape).parts
        (.record [("destinations", .list [])]) :=
    List.mem_of_getElem? (i := 0) rfl
  exact ⟨⟨_, .into rfl notifications (.into rfl destinations .here), rfl⟩, rfl⟩

end Descriptor

end BucketPlan
