import BucketPlan.Plan.Parameters
import BucketPlan.Proofs.Arranged.Keyed
import BucketPlan.Proofs.Rendered.Accepted
import BucketPlan.Proofs.Rendered.Calls
import BucketPlan.Proofs.Rendered.Member

namespace BucketPlan

/-- A form of records with certain required members, of whose members some are known. -/
def Form.HasMembers (required : List String) (known : List (String × Form)) (form : Form) : Prop :=
  ∃ members, form = .record required members ∧
    ∀ member ∈ known, members.lookup member.1 = some member.2

theorem Form.record_hasMembers {required : List String} {members : List (String × Form)}
    (distinct : (members.map Prod.fst).Nodup) : (record required members).HasMembers required members :=
  ⟨members, rfl, fun _ => Keyed.lookup_of_nodup distinct⟩

namespace Service

variable {service : Service}

/-- What a service finds nothing wrong with. A text is long enough, the items of a list are of the form
of an item, and a record has its required members and none but members that the form knows, each of
the form that it says. Of other forms nothing is said. -/
structure ChecksForms (service : Service) : Prop where
  text : ∀ least value, service.problems (.text least) value = [] ↔
    ∃ s, value = .str s ∧ least ≤ s.length
  boolean : ∀ value, service.problems .boolean value = [] ↔ ∃ b, value = .bool b
  listOf : ∀ item value, service.problems (.listOf item) value = [] ↔
    ∃ items, value.sequence? = some items ∧ ∀ x ∈ items, service.problems item x = []
  record : ∀ required members value, service.problems (.record required members) value = [] ↔
    ∃ entries, value.entries? = some entries ∧
      (∀ name ∈ required, ∃ item, (.str name, item) ∈ entries) ∧
      ∀ entry ∈ entries, ∃ name form, entry.1 = .str name ∧ members.lookup name = some form ∧
        service.problems form entry.2 = []

/-- A service offers a call for a bucket with one further required member, of a form such as is said. It
may know further members of the call that are not required. -/
def Takes (service : Service) (operation : Operation) (name : String) (content : Form → Prop) : Prop :=
  ∃ form shape, service.input operation.name = some form ∧
    form.HasMembers ["Bucket", name] [("Bucket", .text 0), (name, shape)] ∧ content shape

/-- The calls for the settings of a bucket that a service offers, with what it requires in them. -/
structure OffersSettings (service : Service) : Prop where
  versioning : service.Takes .putVersioning "VersioningConfiguration"
    (Form.HasMembers [] [("Status", .text 0)])
  acceleration : service.Takes .putAccelerate "AccelerateConfiguration"
    (Form.HasMembers [] [("Status", .text 0)])
  payment : service.Takes .putRequestPayment "RequestPaymentConfiguration"
    (Form.HasMembers ["Payer"] [("Payer", .text 0)])
  publicAccess : service.Takes .putPublicAccessBlock "PublicAccessBlockConfiguration"
    (Form.HasMembers [] [("BlockPublicAcls", .boolean), ("IgnorePublicAcls", .boolean),
      ("BlockPublicPolicy", .boolean), ("RestrictPublicBuckets", .boolean)])
  tagging : service.Takes .putTagging "Tagging" fun form => ∃ tag,
    form.HasMembers ["TagSet"] [("TagSet", .listOf tag)] ∧
      tag.HasMembers ["Key", "Value"] [("Key", .text 1), ("Value", .text 0)]

/-- Fields that go by the names of known members, in their order, meet a condition on known members one
by one. -/
theorem forall_field_iff_forall₂ (condition : Form → Value → Prop)
    {members known : List (String × Form)}
    (found : ∀ member ∈ known, members.lookup member.1 = some member.2)
    {fields : List (String × Value)} (named : fields.map Prod.fst = known.map Prod.fst) :
    (∀ field ∈ fields, ∃ form, members.lookup field.1 = some form ∧ condition form field.2) ↔
      List.Forall₂ (fun field member => condition member.2 field.2) fields known := by
  induction known generalizing fields with
  | nil =>
    cases List.map_eq_nil_iff.mp named
    simp
  | cons member others ih =>
    obtain ⟨field, rest, rfl⟩ := List.exists_cons_of_ne_nil (l := fields) (by rintro rfl; cases named)
    obtain ⟨same, named⟩ := List.cons.inj named
    obtain ⟨first, later⟩ := List.forall_mem_cons.mp found
    rw [List.forall_mem_cons, List.forall₂_cons, ih later named, same, first]
    simp

namespace ChecksForms

theorem record_iff (checks : service.ChecksForms) {required : List String}
    {members : List (String × Form)} {fields : List (String × Value)} :
    service.problems (.record required members) (.record fields) = [] ↔
      (∀ name ∈ required, name ∈ fields.map Prod.fst) ∧
        ∀ field ∈ fields, ∃ form, members.lookup field.1 = some form ∧
          service.problems form field.2 = [] := by
  have entries : (Value.record fields).entries? =
      some (fields.map fun field => (Value.str field.1, field.2)) := rfl
  rw [checks.record, entries]
  simp only [Option.some.injEq, exists_eq_left', List.forall_mem_map, Value.str.injEq]
  simp

/-- A record whose fields are the known members of its form is checked member by member. -/
theorem record_iff_forall₂ (checks : service.ChecksForms) {form : Form} {required : List String}
    {known : List (String × Form)} (has : form.HasMembers required known)
    (among : ∀ name ∈ required, name ∈ known.map Prod.fst) {fields : List (String × Value)}
    (named : fields.map Prod.fst = known.map Prod.fst) :
    service.problems form (.record fields) = [] ↔
      List.Forall₂ (fun field member => service.problems member.2 field.2 = []) fields known := by
  obtain ⟨members, rfl, found⟩ := has
  rw [checks.record_iff, named, and_iff_right among]
  exact forall_field_iff_forall₂ (fun form item => service.problems form item = []) found named

theorem member_iff (checks : service.ChecksForms) {form shape : Form} {required : List String}
    {name : String} (has : form.HasMembers required [(name, shape)])
    (among : ∀ other ∈ required, other = name) {item : Value} :
    service.problems form (.record [(name, item)]) = [] ↔ service.problems shape item = [] := by
  rw [checks.record_iff_forall₂ has (by simpa using among) rfl]
  simp

theorem text_str (checks : service.ChecksForms) (s : String) :
    service.problems (.text 0) (.str s) = [] :=
  (checks.text 0 _).mpr ⟨s, rfl, Nat.zero_le _⟩

theorem publicAccess (checks : service.ChecksForms) {form : Form}
    (has : form.HasMembers [] [("BlockPublicAcls", .boolean), ("IgnorePublicAcls", .boolean),
      ("BlockPublicPolicy", .boolean), ("RestrictPublicBuckets", .boolean)])
    (access : PublicAccessPlan) : service.problems form access.request = [] := by
  rw [PublicAccessPlan.request, checks.record_iff_forall₂ has (by simp) rfl]
  simp [checks.boolean]

/-- Of the tags only those with an empty key are found fault with. -/
theorem tagSet_iff (checks : service.ChecksForms) {form tag : Form}
    (has : form.HasMembers ["TagSet"] [("TagSet", .listOf tag)])
    (ofTag : tag.HasMembers ["Key", "Value"] [("Key", .text 1), ("Value", .text 0)])
    (tags : List (String × String)) :
    service.problems form (.record [("TagSet", tagSet tags)]) = [] ↔ ∀ tag ∈ tags, tag.1 ≠ "" := by
  rw [checks.member_iff has (by simp), checks.listOf]
  have each (name text : String) :
      service.problems tag (.record [("Key", .str name), ("Value", .str text)]) = [] ↔ name ≠ "" := by
    rw [checks.record_iff_forall₂ ofTag (by simp) rfl]
    simp [checks.text, Nat.one_le_iff_ne_zero]
  simp only [tagSet, Value.sequence?, Option.some.injEq, exists_eq_left', List.forall_mem_map, plain_string,
    each]

end ChecksForms

theorem checkCall_eq_ok_iff {name : String} {params : Value} :
    checkCall service name params = .ok () ↔
      ∃ form, service.input name = some form ∧ service.problems form params = [] := by
  rw [checkCall]
  cases service.input name with
  | none => simp
  | some form => cases found : service.problems form params <;> simp [found]

/-- A call for a bucket with one further member is accepted when the member is. -/
theorem Takes.checkCall_iff {operation : Operation} {name : String} {content : Form → Prop}
    (takes : service.Takes operation name content) (checks : service.ChecksForms) :
    ∃ shape, content shape ∧ ∀ (plan : Plan) (item : Value),
      checkCall service operation.name (plan.call operation [(name, item)]).params = .ok () ↔
        service.problems shape item = [] := by
  obtain ⟨form, shape, offered, has, described⟩ := takes
  refine ⟨shape, described, fun plan item => ?_⟩
  rw [checkCall_eq_ok_iff, offered]
  simp only [Option.some.injEq, exists_eq_left']
  rw [Plan.call, checks.record_iff_forall₂ has (by simp) rfl]
  simp [checks.text_str]

/-- Nothing is wrong with any text as the only member of what a call sets. -/
theorem Takes.accepts_str {operation : Operation} {name field : String} {required : List String}
    (takes : service.Takes operation name (Form.HasMembers required [(field, .text 0)]))
    (checks : service.ChecksForms) (among : ∀ other ∈ required, other = field) (plan : Plan) (s : String) :
    checkCall service operation.name
      (plan.call operation [(name, .record [(field, .str s)])]).params = .ok () := by
  obtain ⟨form, has, accepted⟩ := takes.checkCall_iff checks
  exact (accepted plan _).mpr ((checks.member_iff has among).mpr (checks.text_str s))

end Service

/-- All operations there are. -/
def Operation.all : List Operation :=
  single ++ [putInventory, putTiering]

/-- The operations for single settings of a bucket whose parameters are small enough to be told in full. -/
def Operation.forSettings : List Operation :=
  [putVersioning, putAccelerate, putRequestPayment, putPublicAccessBlock, putTagging]

namespace Plan

variable {plan : Plan} {call : Request}

/-- Calls for single settings are among those that set up the bucket as such. -/
theorem mem_settingCalls {minutes : Int} {requests : List Request}
    (rendered : plan.requests minutes = .ok requests) (member : call ∈ requests)
    (setting : call.operation ∈ Operation.forSettings) : call ∈ plan.settingCalls := by
  obtain ⟨lifecycle, notification, made, announced, rfl⟩ := requests_eq rendered
  have own : call ∈ callsOf call.operation _ := List.mem_filter.mpr ⟨member, decide_eq_true rfl⟩
  have others : call ∈ callsOf call.operation plan.settingCalls := by
    generalize call.operation = operation at setting own ⊢
    simp only [Operation.forSettings, List.mem_cons, List.not_mem_nil, or_false] at setting
    -- all other groups of calls are of other operations
    rcases setting with rfl | rfl | rfl | rfl | rfl <;>
      simpa [contentCalls, replicationCalls, ruleCalls, callsOf_lockCalls,
        callsOf_lifecycleCalls made, callsOf_notificationCalls announced] using own
  exact (List.mem_filter.mp others).1

/-- The call that sets the tags of a bucket is accepted exactly when no tag has an empty key. -/
theorem checkCall_tagging_iff {service : Service} (checks : service.ChecksForms)
    (offers : service.OffersSettings) (plan : Plan) (tags : List (String × String)) :
    checkCall service Operation.putTagging.name
        (plan.call .putTagging [("Tagging", .record [("TagSet", tagSet tags)])]).params = .ok () ↔
      ∀ tag ∈ tags, tag.1 ≠ "" := by
  obtain ⟨form, ⟨tag, has, ofTag⟩, accepted⟩ := offers.tagging.checkCall_iff checks
  rw [accepted, checks.tagSet_iff has ofTag]

/-- The calls for single settings are accepted, given that no tag has an empty key. -/
theorem checkCall_settingCalls {service : Service} (checks : service.ChecksForms)
    (offers : service.OffersSettings) (named : ∀ tag ∈ plan.tags, tag.1 ≠ "")
    (member : call ∈ plan.settingCalls) (setting : call.operation ∈ Operation.forSettings) :
    checkCall service call.operation.name call.params = .ok () := by
  simp only [settingCalls, List.mem_append, List.mem_cons, List.not_mem_nil, or_false,
    mem_callIf] at member
  rcases member with
    ((((((rfl | rfl | rfl) | ⟨_, rfl⟩) | rfl) | ⟨_, rfl⟩) | rfl) | ⟨_, rfl⟩)
  · exact absurd setting (show Operation.createBucket ∉ Operation.forSettings by decide)
  · exact absurd setting (show Operation.putOwnershipControls ∉ Operation.forSettings by decide)
  · obtain ⟨form, has, accepted⟩ := offers.publicAccess.checkCall_iff checks
    exact (accepted plan _).mpr (checks.publicAccess has _)
  · exact offers.versioning.accepts_str checks (by simp) plan _
  · exact absurd setting (show Operation.putEncryption ∉ Operation.forSettings by decide)
  · exact (checkCall_tagging_iff checks offers plan _).mpr named
  · exact offers.payment.accepts_str checks (by simp) plan _
  · exact offers.acceleration.accepts_str checks (by simp) plan _

end Plan

theorem Descriptor.Yields.tags_named {d : Descriptor} {options : Options} {plan : Plan}
    (yields : d.Yields options plan) : ∀ tag ∈ plan.tags, tag.1 ≠ "" := by
  obtain ⟨replication, _, made⟩ := yields.made
  obtain ⟨website, _, ended⟩ := steps_of_bind_ok made
  cases ended
  intro tag member
  exact (yields.isValid.tags.keys tag (d.tags.sorted_perm.mem_iff.mp member)).1

namespace Form

mutual

/-- Whether a value is of a form. Forms of other kinds are not looked into. -/
def admits : Form → Value → Bool
  | text least, value => value.text?.any fun s => least ≤ s.length
  | boolean, value => value.bool?.isSome
  | listOf item, value => value.sequence?.any fun items => items.all item.admits
  | record required members, value => value.entries?.any fun entries =>
    (required.all fun name => entries.any fun entry => entry.1.sameKey (.str name)) &&
      entries.all fun entry => admitsMember members entry.1 entry.2
  | other _, _ => true

/-- Whether an entry of a map is a member that is known, and of the form of this member. -/
def admitsMember : List (String × Form) → Value → Value → Bool
  | [], _, _ => false
  | (name, form) :: others, key, item =>
    if key.sameKey (.str name) then form.admits item else admitsMember others key item

end

theorem admitsMember_iff {members : List (String × Form)} {key item : Value} :
    admitsMember members key item = true ↔
      ∃ name form, key = .str name ∧ members.lookup name = some form ∧ form.admits item = true := by
  induction members with
  | nil => simp [admitsMember]
  | cons member others ih =>
    obtain ⟨name, form⟩ := member
    rw [admitsMember]
    by_cases same : key = .str name
    · subst same
      simp [Value.sameKey_str]
    · have passed : ∀ other, key = .str other →
          ((name, form) :: others).lookup other = others.lookup other := by
        rintro other rfl
        rw [lookup_field, if_neg fun eq => same (congrArg Value.str eq)]
      rw [if_neg (mt Value.sameKey_str.mp same), ih]
      refine exists_congr fun other => exists_congr fun found => and_congr_right fun named => ?_
      rw [passed other named]

/-- The parameters of a call for a bucket with one further member. -/
def forBucket (name : String) (content : Form) : Form :=
  record ["Bucket", name] [("Bucket", text 0), (name, content)]

/-- The form of the parameters of a call. -/
def ofCall : Operation → Form
  | .putVersioning => forBucket "VersioningConfiguration" (record [] [("Status", text 0)])
  | .putAccelerate => forBucket "AccelerateConfiguration" (record [] [("Status", text 0)])
  | .putRequestPayment => forBucket "RequestPaymentConfiguration"
    (record ["Payer"] [("Payer", text 0)])
  | .putPublicAccessBlock => forBucket "PublicAccessBlockConfiguration"
    (record [] [("BlockPublicAcls", boolean), ("IgnorePublicAcls", boolean),
      ("BlockPublicPolicy", boolean), ("RestrictPublicBuckets", boolean)])
  | .putTagging => forBucket "Tagging" (record ["TagSet"]
    [("TagSet", listOf (record ["Key", "Value"] [("Key", text 1), ("Value", text 0)]))])
  | operation => other operation.name

end Form

namespace Service

/-- A service that knows no members beyond those that are set, and that looks into the parameters of
calls for single settings only. -/
def reference : Service where
  input name := (Operation.all.find? fun operation => operation.name == name).map Form.ofCall
  problems form value := if form.admits value then [] else ["Parameter validation failed"]

theorem reference_problems_iff {form : Form} {value : Value} :
    reference.problems form value = [] ↔ form.admits value = true := by
  simp [reference]

theorem reference_checksForms : reference.ChecksForms where
  text least value := by
    rw [reference_problems_iff]
    cases value <;> simp [Form.admits, Value.text?]
  boolean value := by
    rw [reference_problems_iff]
    cases value <;> simp [Form.admits, Value.bool?]
  listOf item value := by
    simp only [reference_problems_iff]
    cases value <;> simp [Form.admits, Value.sequence?]
  record required members value := by
    simp only [reference_problems_iff, ← Form.admitsMember_iff]
    cases value <;> simp [Form.admits, Value.entries?, Value.sameKey_str]

theorem reference_takes {operation : Operation} {name : String} {shape : Form} {content : Form → Prop}
    (form : Form.ofCall operation = .forBucket name shape) (apart : "Bucket" ≠ name)
    (described : content shape) : reference.Takes operation name content := by
  have offered : reference.input operation.name = some (Form.ofCall operation) := by
    cases operation <;> rfl
  exact ⟨_, shape, offered.trans (congrArg some form), Form.record_hasMembers (by simp [apart]), described⟩

theorem reference_offersSettings : reference.OffersSettings where
  versioning := reference_takes rfl (by decide) (Form.record_hasMembers (by decide))
  acceleration := reference_takes rfl (by decide) (Form.record_hasMembers (by decide))
  payment := reference_takes rfl (by decide) (Form.record_hasMembers (by decide))
  publicAccess := reference_takes rfl (by decide) (Form.record_hasMembers (by decide))
  tagging := reference_takes rfl (by decide)
    ⟨_, Form.record_hasMembers (by simp), Form.record_hasMembers (by decide)⟩

end Service

/-- A bucket for uploads from afar, whose versions are kept and whose owner is known by a tag. -/
def taggedUploads : Value :=
  .record [("name", .str "uploads"), ("tags", .record [("team", .str "media")]),
    ("versioning_enabled", .bool true), ("transfer_acceleration", .bool true)]

end BucketPlan
