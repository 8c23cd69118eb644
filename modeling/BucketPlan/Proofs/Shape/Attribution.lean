import BucketPlan.Proofs.Shape.Reported
import BucketPlan.Proofs.Shape.Whereabouts

namespace BucketPlan

namespace Reader

variable {entry : Option (String × String)} {path name : String} {read : Reader → Reader} {log : Log}

theorem inside_of_keyed (keyed : path ∈ keyedAreas) :
    (⟨entry, log⟩ : Reader).inside path name read =
      { read ⟨some (path, name), log⟩ with entry := entry } :=
  if_pos keyed

theorem inside_of_not_keyed (unkeyed : path ∉ keyedAreas) (reader : Reader) :
    reader.inside path name read = read reader :=
  if_neg unkeyed

/-- What is reported part by part is reported of the whole, in the order of the parts. -/
theorem foldl_eq {read : String × Value → Reader → Reader} {parts : List (String × Value)}
    {say : String × Value → Log}
    (step : ∀ part ∈ parts, ∀ log, read part ⟨entry, log⟩ = ⟨entry, log ++ say part⟩) (log : Log) :
    parts.foldl (fun reader part => read part reader) ⟨entry, log⟩ =
      ⟨entry, log ++ parts.flatMap say⟩ := by
  induction parts generalizing log with
  | nil => simp
  | cons part rest ih =>
    obtain ⟨own, others⟩ := List.forall_mem_cons.mp step
    rw [List.foldl_cons, own log, ih others, List.flatMap_cons, List.append_assoc]

end Reader

namespace Whereabouts

variable {w : Whereabouts} {region : Region}

@[simp]
theorem entry_down (w : Whereabouts) (name : String) : (w.down name).entry = w.entry := by
  cases w <;> rfl

theorem IsIn.report (located : w.IsIn region) (log : Log) (message : String) :
    (⟨w.entry, log⟩ : Reader).report w.path message =
      ⟨w.entry, log ++ [w.place.violation message]⟩ := by
  rw [Reader.report, located.ofPathWithin]

theorem exists_index_of_mem_indexed {items : List Value} {part : String × Value}
    (member : part ∈ Value.indexed items) : ∃ i : Nat, part.1 = toString i := by
  obtain ⟨⟨item, i⟩, _, rfl⟩ := List.mem_map.mp member
  exact ⟨i, rfl⟩

end Whereabouts

namespace Shape

open Whereabouts

variable {w : Whereabouts} {region : Region} {shape : Shape}

/-- The shape that has been read at some whereabouts has reported what is to be reported there. -/
def ReportsAt (shape : Shape) (w : Whereabouts) : Prop :=
  ∀ value log, shape.walk w.path value ⟨w.entry, log⟩ =
    ⟨w.entry, log ++ shape.mismatches w.place value⟩

/-- Entries in their own right are read within themselves. -/
theorem ReportsAt.each_entry (located : w.IsIn region) (collection : region.isCollection = true)
    (reports : ∀ w' : Whereabouts, w'.IsIn .entry → shape.ReportsAt w')
    (parts : List (String × Value)) (log : Log) :
    (⟨w.entry, log⟩ : Reader).each w.path shape.walk parts =
      ⟨w.entry, log ++ parts.flatMap fun (name, item) =>
        shape.mismatches (w.place.entry name) item⟩ := by
  have keyed := located.keyed_of_isCollection collection
  refine Reader.foldl_eq ?_ log
  rintro ⟨name, item⟩ _ log
  have own := reports (w.enter name) (.atEntry keyed) item log
  rw [located.place_enter collection, ← located.path_enter collection] at own
  dsimp only
  rw [Reader.inside_of_keyed keyed]
  exact congrArg (fun read : Reader => { read with entry := w.entry }) own

/-- The parts of any other collection are read where the collection is. -/
theorem ReportsAt.each_part (located : w.IsIn region) (known : region ≠ .loose)
    (apart : region.isKeyed = false) {parts : List (String × Value)}
    (placed : ∀ part ∈ parts, (w.down part.1).place = w.place.member part.1)
    (reports : ∀ part ∈ parts, shape.ReportsAt (w.down part.1)) (log : Log) :
    (⟨w.entry, log⟩ : Reader).each w.path shape.walk parts =
      ⟨w.entry, log ++ parts.flatMap fun (name, item) =>
        shape.mismatches (w.place.member name) item⟩ := by
  have unkeyed : w.path ∉ keyedAreas := by
    rw [located.keyed_iff known, apart]
    exact Bool.false_ne_true
  refine Reader.foldl_eq ?_ log
  rintro ⟨name, item⟩ member log
  have own := reports (name, item) member item log
  rw [entry_down, placed (name, item) member] at own
  dsimp only
  rw [Reader.inside_of_not_keyed unkeyed, located.path_down]
  exact own

/-- A reader that goes by paths and remembers the entry it is in reports the same as one that is told the
place of every value. -/
theorem walk_eq (plotted : shape.isPlotted region = true) (located : w.IsIn region) :
    shape.ReportsAt w := by
  intro value log
  induction shape generalizing w region value log with
  | text | integer | boolean =>
    unfold walk mismatches
    split
    · simp
    · exact located.report log _
  | optional shape ih =>
    unfold walk mismatches
    split
    · simp
    · exact ih plotted located value log
  | unlessUntrue shape ih =>
    unfold walk mismatches
    split
    · exact ih plotted located value log
    · simp
  | record members ih =>
    unfold walk mismatches
    split
    · exact ih plotted located value log
    · exact located.report log _
  | member name shape others ihShape ihOthers =>
    obtain ⟨named, dotless, _, own, rest⟩ := isPlotted_member plotted
    have further := located.member named dotless
    have first := ihShape own further (value.get name) log
    rw [entry_down, ← located.path_down, located.place_down (Or.inl named)] at first
    unfold walk mismatches
    rw [first, ihOthers rest located, List.append_assoc]
  | noMore => simp [walk, mismatches]
  | listOf shape ih =>
    simp only [isPlotted, Bool.and_eq_true, bne_iff_ne, Bool.not_eq_true'] at plotted
    obtain ⟨⟨⟨below, known⟩, apart⟩, inner⟩ := plotted
    unfold walk mismatches
    cases value.sequence? with
    | none => exact located.report log _
    | some items =>
      refine ReportsAt.each_part located known apart (fun part member => ?_) (fun part member => ?_) log
      · obtain ⟨i, index⟩ := exists_index_of_mem_indexed member
        exact located.place_down (Or.inl (index ▸ Nat.repr_ne_empty))
      · obtain ⟨i, index⟩ := exists_index_of_mem_indexed member
        rw [index]
        exact fun value log => ih inner (located.item below i) value log
  | listOfEntries shape ih =>
    obtain ⟨collection, inner⟩ := Bool.and_eq_true_iff.mp plotted
    unfold walk mismatches
    cases value.sequence? with
    | none => exact located.report log _
    | some items =>
      exact ReportsAt.each_entry located collection
        (fun w' entered value log => ih inner entered value log) (Value.indexed items) log
  | oneOrMore shape ih =>
    simp only [isPlotted, Bool.and_eq_true, bne_iff_ne, Bool.not_eq_true'] at plotted
    obtain ⟨⟨below, _⟩, inner⟩ := plotted
    have item : ∀ (i : Nat) (value : Value) (log : Log),
        shape.walk (pathBelow w.path (toString i)) value ⟨w.entry, log⟩ =
          ⟨w.entry, log ++ shape.mismatches (w.place.member (toString i)) value⟩ := by
      intro i value log
      have named : toString i ≠ "" := Nat.repr_ne_empty
      have own := ih inner (located.item below i) value log
      rwa [entry_down, ← located.path_down, located.place_down (Or.inl named)] at own
    unfold walk mismatches
    split
    · exact item 0 value log
    · cases value.sequence? with
      | none => exact located.report log _
      | some items =>
        refine Reader.foldl_eq (fun part member log => ?_) log
        obtain ⟨i, index⟩ := exists_index_of_mem_indexed member
        simpa only [index] using item i part.2 log
  | fields shape ih =>
    simp only [isPlotted, Bool.and_eq_true, beq_iff_eq] at plotted
    obtain ⟨rfl, inner⟩ := plotted
    unfold walk mismatches
    split
    · exact ReportsAt.each_part located (by decide) rfl
        (fun part _ => located.place_down (Or.inr (Or.inr rfl)))
        (fun part _ value log => ih inner (located.field part.1) value log) log
    · exact located.report log _
  | entries shape ih =>
    obtain ⟨collection, inner⟩ := Bool.and_eq_true_iff.mp plotted
    unfold walk mismatches
    split
    · exact ReportsAt.each_entry located collection
        (fun w' entered value log => ih inner entered value log) value.namedEntries log
    · exact located.report log _
  | pair first second members ih =>
    simp only [isPlotted, Bool.and_eq_true, beq_iff_eq] at plotted
    obtain ⟨rfl, inner⟩ := plotted
    unfold walk mismatches
    generalize value.sequence? = sequence
    rcases sequence with _ | _ | ⟨a, _ | ⟨b, _ | ⟨c, rest⟩⟩⟩
    · simp only
      split
      · exact ih inner located value log
      · exact located.report log _
    · exact located.report log _
    · exact located.report log _
    · exact ih inner located _ log
    · exact located.report log _

end Shape

/-- An entry of a collection by its place there and its name, which is the text of its key, or its index
in a list. -/
inductive Value.HasEntry (value : Value) : Nat → String → Value → Prop
  | key {entries : List (Value × Value)} {i : Nat} {key item : Value} (isMap : value = .map entries)
      (listed : entries[i]? = some (key, item)) : HasEntry value i key.display item
  | index {items : List Value} {i : Nat} {item : Value} (sequence : value.sequence? = some items)
      (listed : items[i]? = some item) : HasEntry value i (toString i) item

/-- What the members of these names lead to, one after the other. -/
def Value.getAll (value : Value) (names : List String) : Value :=
  names.foldl get value

def Turn.isEntry : Turn → Bool
  | entry _ _ => true
  | _ => false

/-- What a turn to a part of a value makes of what is known of the whereabouts. -/
inductive Part.Crosses (value : Value) (region : Region) (part : Part) : Region → Prop
  | member {name : String} (turn : part.turn = .member name) (named : name ≠ "")
      (dotless : region = .top [] → '.' ∉ name.toList) (apart : region.isCollection = false)
      (held : region ≠ .inEntry → part.value = value.get name) :
      Crosses value region part (region.member name)
  | item {i : Nat} (turn : part.turn = .item i) (below : region ≠ .top [])
      (apart : region.isCollection = false) : Crosses value region part region.item
  | field {i : Nat} {name : String} (turn : part.turn = .field i name) (known : region = .inEntry) :
      Crosses value region part .inEntry
  | entry {i : Nat} {name : String} (turn : part.turn = .entry i name)
      (collection : region.isCollection = true) (listed : value.HasEntry i name part.value) :
      Crosses value region part .entry

namespace Shape

variable {shape : Shape} {region : Region} {value : Value} {part : Part}

theorem isCollection_eq_false (apart : region.isKeyed = false) : region.isCollection = false := by
  refine Bool.eq_false_iff.mpr fun collection => ?_
  cases apart.symm.trans (Region.isKeyed_of_isCollection collection)

/-- What is plotted leads from what is known to what is known. -/
theorem crosses_of_isPlotted (plotted : shape.isPlotted region = true)
    (inside : part ∈ shape.parts value) :
    ∃ next, part.Crosses value region next ∧ part.shape.isPlotted next = true := by
  induction shape generalizing region value with
  | text | integer | boolean | noMore => cases inside
  | optional shape ih =>
    rw [parts] at inside
    split at inside
    · cases inside
    · exact ih plotted inside
  | unlessUntrue shape ih =>
    rw [parts] at inside
    split at inside
    · exact ih plotted inside
    · cases inside
  | record members ih => exact ih plotted inside
  | member name shape others _ ih =>
    obtain ⟨named, dotless, apart, own, rest⟩ := isPlotted_member plotted
    rcases List.mem_cons.mp inside with rfl | later
    · exact ⟨_, .member rfl named dotless (isCollection_eq_false apart) fun _ => rfl, own⟩
    · exact ih rest later
  | listOf shape =>
    simp only [isPlotted, Bool.and_eq_true, bne_iff_ne, Bool.not_eq_true'] at plotted
    obtain ⟨⟨⟨below, _⟩, apart⟩, inner⟩ := plotted
    obtain ⟨⟨item, i⟩, _, rfl⟩ := List.mem_map.mp inside
    exact ⟨_, .item rfl below (isCollection_eq_false apart), inner⟩
  | listOfEntries shape =>
    obtain ⟨collection, inner⟩ := Bool.and_eq_true_iff.mp plotted
    obtain ⟨⟨item, i⟩, listed, rfl⟩ := List.mem_map.mp inside
    cases sequence : value.sequence? with
    | none => simp [sequence] at listed
    | some items =>
      rw [sequence] at listed
      have found : items[i]? = some item := List.mem_zipIdx_iff_getElem?.mp listed
      exact ⟨_, .entry rfl collection (.index sequence found), inner⟩
  | oneOrMore shape =>
    simp only [isPlotted, Bool.and_eq_true, bne_iff_ne, Bool.not_eq_true'] at plotted
    obtain ⟨⟨below, apart⟩, inner⟩ := plotted
    rw [parts] at inside
    split at inside
    · cases List.mem_singleton.mp inside
      exact ⟨_, .item rfl below (isCollection_eq_false apart), inner⟩
    · obtain ⟨⟨item, i⟩, _, rfl⟩ := List.mem_map.mp inside
      exact ⟨_, .item rfl below (isCollection_eq_false apart), inner⟩
  | fields shape =>
    simp only [isPlotted, Bool.and_eq_true, beq_iff_eq] at plotted
    obtain ⟨⟨⟨name, item⟩, i⟩, _, rfl⟩ := List.mem_map.mp inside
    exact ⟨_, .field rfl plotted.1, plotted.2⟩
  | entries shape =>
    obtain ⟨collection, inner⟩ := Bool.and_eq_true_iff.mp plotted
    obtain ⟨⟨⟨name, item⟩, i⟩, listed, rfl⟩ := List.mem_map.mp inside
    have found : value.namedEntries[i]? = some (name, item) := List.mem_zipIdx_iff_getElem?.mp listed
    cases value with
    | map entries =>
      simp only [Value.namedEntries, Value.entries?, Option.getD_some, List.getElem?_map,
        Option.map_eq_some_iff] at found
      obtain ⟨⟨key, held⟩, there, same⟩ := found
      cases same
      exact ⟨_, .entry rfl collection (.key rfl there), inner⟩
    | _ => simp [Value.namedEntries, Value.entries?] at found
  | pair first second members ih =>
    simp only [isPlotted, Bool.and_eq_true, beq_iff_eq] at plotted
    obtain ⟨rfl, inner⟩ := plotted
    obtain ⟨next, crosses, plotted⟩ := ih inner inside
    refine ⟨next, ?_, plotted⟩
    cases crosses with
    | member turn named dotless apart => exact .member turn named dotless apart (absurd rfl)
    | item turn below apart => exact .item turn below apart
    | field turn known => exact .field turn known
    | entry _ collection => cases collection

end Shape

namespace Whereabouts

variable {w : Whereabouts} {region next : Region} {value : Value} {part : Part}

theorem IsIn.turn (located : w.IsIn region) (crosses : part.Crosses value region next) :
    (w.turn part.turn).IsIn next ∧ (w.turn part.turn).place = w.place.turn part.turn := by
  cases crosses with
  | member turn named dotless =>
    rw [turn]
    exact ⟨located.member named dotless, located.place_down (Or.inl named)⟩
  | item turn below =>
    rw [turn]
    exact ⟨located.item below _, located.place_down (Or.inl Nat.repr_ne_empty)⟩
  | field turn known =>
    subst known
    rw [turn]
    exact ⟨located.field _, located.place_down (Or.inr (Or.inr rfl))⟩
  | entry turn collection =>
    rw [turn]
    exact ⟨.atEntry (located.keyed_of_isCollection collection), located.place_enter collection _⟩

end Whereabouts

/-- Whether no name of the shape can lead to an entry any more. -/
def Region.IsBeyond (region : Region) : Prop :=
  ∀ names, region ≠ .top names

theorem Part.Crosses.beyond {value : Value} {region next : Region} {part : Part}
    (crosses : part.Crosses value region next) (beyond : region.IsBeyond) :
    part.turn.isEntry = false ∧ next.IsBeyond := by
  cases region with
  | top names => exact absurd rfl (beyond names)
  | _ =>
    cases crosses with
    | entry _ collection => cases collection
    | member turn | item turn | field turn =>
      exact ⟨by rw [turn]; rfl, fun names => by simp [Region.member, Region.item]⟩

namespace Shape.Leads

variable {shape declared : Shape} {value held : Value} {trail : Trail} {region : Region}

/-- A trail leads to the place of the whereabouts that it leads to. -/
theorem place_follow (leads : shape.Leads value trail declared held)
    (plotted : shape.isPlotted region = true) {w : Whereabouts} (located : w.IsIn region) :
    (w.follow trail).place = w.place.follow trail := by
  induction leads generalizing region w with
  | here => rfl
  | into accepted inside further ih =>
    obtain ⟨next, crosses, inner⟩ := crosses_of_isPlotted plotted inside
    obtain ⟨there, place⟩ := located.turn crosses
    rw [Place.follow_cons, ← place]
    exact ih inner there

/-- Beyond the names of the shape there is no entry left to enter. -/
theorem entryless (leads : shape.Leads value trail declared held)
    (plotted : shape.isPlotted region = true) (beyond : region.IsBeyond) :
    ∀ turn ∈ trail, turn.isEntry = false := by
  induction leads generalizing region with
  | here => simp
  | into accepted inside further ih =>
    obtain ⟨next, crosses, inner⟩ := crosses_of_isPlotted plotted inside
    obtain ⟨own, still⟩ := crosses.beyond beyond
    exact List.forall_mem_cons.mpr ⟨own, ih inner still⟩

/-- A trail goes into an entry right behind the names of a keyed collection, and nowhere else. -/
theorem enters_or_not (leads : shape.Leads value trail declared held) {names : List String}
    (plotted : shape.isPlotted (.top names) = true) :
    (∃ below i name item rest, trail = below.map .member ++ .entry i name :: rest ∧
      names ++ below ∈ keyedCollections ∧ (value.getAll below).HasEntry i name item ∧
      ∀ turn ∈ rest, turn.isEntry = false) ∨
    ((∀ turn ∈ trail, turn.isEntry = false) ∧
      ∀ below turn, below.map .member ++ [turn] <+: trail → names ++ below ∉ keyedCollections) := by
  induction leads generalizing names with
  | here => exact Or.inr ⟨by simp, fun below turn starts => by simp at starts⟩
  | @into shape _ value _ trail part accepted inside further ih =>
    obtain ⟨next, crosses, inner⟩ := crosses_of_isPlotted plotted inside
    cases crosses with
    | @member name turn _ _ apart held =>
      have here : names ∉ keyedCollections := by simpa [Region.isCollection] using apart
      rw [turn]
      rcases ih inner with ⟨below, i, entry, item, rest, rfl, keyed, listed, after⟩ | ⟨none, outside⟩
      · refine Or.inl ⟨name :: below, i, entry, item, rest, rfl, by simpa using keyed, ?_, after⟩
        rwa [held (by simp)] at listed
      · refine Or.inr ⟨List.forall_mem_cons.mpr ⟨rfl, none⟩, fun below turn starts => ?_⟩
        cases below with
        | nil => simpa using here
        | cons first others =>
          obtain ⟨same, further⟩ := List.cons_prefix_cons.mp starts
          cases same
          simpa using outside others turn further
    | item turn below apart =>
      have here : names ∉ keyedCollections := by simpa [Region.isCollection] using apart
      have after := further.entryless inner (by simp [Region.item, Region.IsBeyond])
      rw [turn]
      refine Or.inr ⟨List.forall_mem_cons.mpr ⟨rfl, after⟩, fun below turn starts => ?_⟩
      cases below with
      | nil => simpa using here
      | cons first others => cases (List.cons_prefix_cons.mp starts).1
    | field turn known => cases known
    | @entry i name turn collection listed =>
      have after := further.entryless inner (by simp [Region.IsBeyond])
      rw [turn]
      exact Or.inl ⟨[], i, name, part.value, trail, rfl,
        by simpa [Region.isCollection] using collection, listed, after⟩

end Shape.Leads

namespace Whereabouts

@[simp]
theorem follow_nil (w : Whereabouts) : w.follow [] = w := rfl

@[simp]
theorem follow_cons (w : Whereabouts) (turn : Turn) (rest : Trail) :
    w.follow (turn :: rest) = (w.turn turn).follow rest := rfl

theorem follow_append (w : Whereabouts) (first second : Trail) :
    w.follow (first ++ second) = (w.follow first).follow second :=
  List.foldl_append

/-- Any turn but that into an entry is a step down by its name. -/
theorem turn_eq_down {turn : Turn} (none : turn.isEntry = false) (rest : Trail) :
    ∃ name, Trail.names (turn :: rest) = name :: rest.names ∧
      ∀ w : Whereabouts, w.turn turn = w.down name := by
  cases turn with
  | member name => exact ⟨name, rfl, fun _ => rfl⟩
  | item index => exact ⟨toString index, rfl, fun _ => rfl⟩
  | field _ name => exact ⟨name, rfl, fun _ => rfl⟩
  | entry => cases none

theorem follow_outside {trail : Trail} (none : ∀ turn ∈ trail, turn.isEntry = false) (area : String)
    (below : List String) :
    (outside area below).follow trail = outside area (below ++ trail.names) := by
  induction trail generalizing below with
  | nil => simp [Trail.names]
  | cons turn rest ih =>
    obtain ⟨own, others⟩ := List.forall_mem_cons.mp none
    obtain ⟨name, named, down⟩ := turn_eq_down own rest
    rw [follow_cons, down, Whereabouts.down, ih others, named, List.append_assoc]
    rfl

theorem follow_inside {trail : Trail} (none : ∀ turn ∈ trail, turn.isEntry = false)
    (area rule : String) (below : List String) :
    (inside area rule below).follow trail = inside area rule (below ++ trail.names) := by
  induction trail generalizing below with
  | nil => simp [Trail.names]
  | cons turn rest ih =>
    obtain ⟨own, others⟩ := List.forall_mem_cons.mp none
    obtain ⟨name, named, down⟩ := turn_eq_down own rest
    rw [follow_cons, down, Whereabouts.down, ih others, named, List.append_assoc]
    rfl

/-- Outside of entries the first name of a trail is the area, and the others are below it. -/
theorem follow_root {trail : Trail} (none : ∀ turn ∈ trail, turn.isEntry = false) :
    root.follow trail = match trail.names with
      | [] => root
      | area :: below => outside area below := by
  cases trail with
  | nil => rfl
  | cons turn rest =>
    obtain ⟨own, others⟩ := List.forall_mem_cons.mp none
    obtain ⟨name, named, down⟩ := turn_eq_down own rest
    rw [follow_cons, down, Whereabouts.down, follow_outside others, named]
    rfl

theorem names_members (below : List String) : Trail.names (below.map .member) = below := by
  rw [Trail.names, List.filterMap_map]
  exact List.filterMap_some

/-- Behind the names of a collection a trail leads into the entry that it names. -/
theorem follow_into (below : List String) (i : Nat) (name : String) {rest : Trail}
    (none : ∀ turn ∈ rest, turn.isEntry = false) :
    root.follow (below.map .member ++ .entry i name :: rest) =
      inside (".".intercalate below) name (Trail.names rest) := by
  have members : ∀ turn ∈ below.map Turn.member, turn.isEntry = false := by simp [Turn.isEntry]
  have path : (root.follow (below.map .member)).path = ".".intercalate below := by
    rw [follow_root members, names_members]
    cases below <;> rfl
  rw [follow_append, follow_cons, turn, enter, path, follow_inside none, List.nil_append]

end Whereabouts

/-- A violation is reported for the entry of a keyed collection that a trail goes into, at the path that
the trail takes within the entry. Where it goes into none, the violation is reported for the first name
of the trail. -/
inductive Violation.IsAttributed (value : Value) (v : Violation) : Trail → Prop
  | within {collection : List String} {i : Nat} {name : String} {item : Value} {rest : Trail}
      (keyed : collection ∈ keyedCollections) (entry : (value.getAll collection).HasEntry i name item)
      (area : v.area = ".".intercalate collection) (rule : v.rule = name)
      (field : v.field = Trail.path rest) :
      IsAttributed value v (collection.map .member ++ .entry i name :: rest)
  | outside {trail : Trail}
      (apart : ∀ collection ∈ keyedCollections, ∀ turn, ¬collection.map .member ++ [turn] <+: trail)
      (area : v.area = trail.names.headD "") (rule : v.rule = "")
      (field : v.field = ".".intercalate trail.names.tail) : IsAttributed value v trail

namespace Descriptor

/-- What a description is complained of at the end of a trail is attributed by the trail. -/
theorem isAttributed_of_leads {value held : Value} {trail : Trail} {declared : Shape}
    (leads : shape.Leads value trail declared held) (message : String) :
    ((Place.follow {} trail).violation message).IsAttributed value trail := by
  have place := leads.place_follow isPlotted_shape .atRoot
  rcases leads.enters_or_not isPlotted_shape with
    ⟨below, i, name, item, rest, rfl, keyed, entry, none⟩ | ⟨none, apart⟩
  · rw [Whereabouts.follow_into below i name none] at place
    have there : Place.follow {} (below.map .member ++ .entry i name :: rest) =
        ⟨".".intercalate below, name, Trail.path rest⟩ := place.symm
    rw [there]
    exact .within keyed entry rfl rfl rfl
  · rw [Whereabouts.follow_root none] at place
    have there : Place.follow {} trail =
        ⟨trail.names.headD "", "", ".".intercalate trail.names.tail⟩ := by
      refine place.symm.trans ?_
      cases trail.names <;> rfl
    rw [there]
    exact .outside (fun collection keyed turn starts => apart collection turn starts keyed) rfl rfl rfl

/-- Reading a description by paths, with the entry that is being read kept in mind, reports what there is
to report and comes back from every entry to where it was before. What it reports is the mistyped values
of the description, each of them for the entry that it stands in, or for its area where it stands in
none. -/
theorem mismatches_attributed (value : Value) :
    shape.walk "" value {} = { entry := none, log := mismatches value } ∧
    (∀ (part : Shape) (path : String) (items : List (String × Value)) (reader : Reader),
      (reader.each path part.walk items).entry = reader.entry) ∧
    ∃ trails : List Trail,
      (∀ trail, trail ∈ trails ↔ ∃ declared held, shape.Leads value trail declared held ∧
        declared.complains held = true) ∧
      List.Forall₂ (fun trail v => v.IsAttributed value trail) trails (mismatches value) := by
  refine ⟨Shape.walk_eq isPlotted_shape .atRoot value [],
    fun part path items reader => Reader.entry_each part.entry_walk,
    shape.complaints value, fun trail => Shape.mem_complaints, ?_⟩
  have placed : List.Forall₂ _ (shape.complaints value) (mismatches value) :=
    Shape.forall₂_complaints isOrderly_shape {} value
  refine List.forall₂_iff_get.mpr ⟨placed.length_eq, fun i inTrails inLog => ?_⟩
  obtain ⟨message, found⟩ := placed.get inTrails inLog
  obtain ⟨_, _, leads, _⟩ := Shape.mem_complaints.mp (List.get_mem _ ⟨i, inTrails⟩)
  rw [found]
  exact isAttributed_of_leads leads message

/-- A rule that is named like a collection, and a tag without a name. -/
example : mismatches (.record [("replication", .record [("rules", .record [("tags.0", .record
      [("filter", .record [("tags", .record [("", .int 5)])])])])])]) =
    [⟨"replication.rules", "tags.0", "filter.tags.", .outOfRange, "expected a string, got int", .error⟩] := by
  decide +kernel

end Descriptor

end BucketPlan
