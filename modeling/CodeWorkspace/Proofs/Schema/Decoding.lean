import CodeWorkspace.Container.OrderedMap.Lemmas
import CodeWorkspace.Json.Decoder
import CodeWorkspace.Proofs.Json.Values

/-!
# Decoders that read what was written

A decoder reads a value out of a tree if it does so as soon as it may go as deep as the tree is.
For each way of building decoders there is a way of building trees that they read: arrays of trees
that the decoder of the items reads, objects with all fields of a record, and so on.
-/

namespace CodeWorkspace

namespace Json

variable {α β γ : Type}

/-- Reading each of several things that were written from something gives what each of them reads
back as. -/
theorem mapM_written {read : β → Option γ} {write : α → β} {result : α → γ} {items : List α}
    (each : ∀ item ∈ items, read (write item) = some (result item)) :
    (items.map write).mapM read = some (items.map result) := by
  induction items with
  | nil => rfl
  | cons item rest ih =>
    have later := ih fun item item_mem => each item (List.mem_cons_of_mem _ item_mem)
    rw [List.map_cons, List.mapM_cons, each item List.mem_cons_self, later]
    rfl

namespace Decoder

/-- The decoder reads a value out of a tree if it may go as deep as the tree is. -/
def Reads (decoder : Decoder α) (tree : Tree) (value : α) : Prop :=
  ∀ depth, tree.depth ≤ depth → decoder depth tree = some value

variable {decoder : Decoder α} {tree : Tree} {value : α}

theorem Reads.decode? (reads : decoder.Reads tree value) (shallow : tree.depth ≤ depthLimit) :
    decoder.decode? tree = some value := reads depthLimit shallow

theorem Reads.map (reads : decoder.Reads tree value) (change : α → β) :
    (decoder.map change).Reads tree (change value) := by
  intro depth shallow
  rw [Decoder.map, reads depth shallow]
  rfl

theorem Reads.andThen (reads : decoder.Reads tree value) {change : α → Option β} {result : β}
    (changed : change value = some result) : (decoder.andThen change).Reads tree result := by
  intro depth shallow
  rw [Decoder.andThen, reads depth shallow]
  exact changed

theorem reads_text (content : String) : text.Reads (.text content) content := fun _ _ => rfl

theorem reads_bool (value : Bool) : bool.Reads (.bool value) value := fun _ _ => rfl

theorem reads_natural {number bound : Nat} (small : number < bound) :
    (natural bound).Reads (.natural number) number := by
  intro depth _
  have literal : (Numeral.ofNat number).toInt? = some (Int.ofNat number) := rfl
  simp only [natural, Tree.natural, literal, small, if_true]

theorem reads_nullable_text (content? : Option String) :
    text.nullable.Reads (.nullable .text content?) content? := by
  cases content? <;> exact fun _ _ => rfl

theorem Reads.list {write : α → Tree} {items : List α}
    (reads : ∀ item ∈ items, decoder.Reads (write item) item) :
    decoder.list.Reads (.array (items.map write)) items := by
  intro depth shallow
  match depth, shallow with
  | depth + 1, shallow =>
    rw [Decoder.list, mapM_written (fun item item_mem => reads item item_mem depth ?_),
      List.map_id']
    exact Tree.depth_le_of_mem_array (List.mem_map_of_mem item_mem) shallow

theorem Reads.pairs {key : String → Option β} {name : β → String} {write : γ → Tree}
    {result : γ → α} {entries : List (β × γ)} (named : ∀ label, key (name label) = some label)
    (reads : ∀ entry ∈ entries, decoder.Reads (write entry.2) (result entry.2)) :
    (Decoder.pairs key decoder).Reads
      (.record (entries.map fun entry => (name entry.1, write entry.2)))
      (entries.map fun entry => (entry.1, result entry.2)) := by
  intro depth shallow
  match depth, shallow with
  | depth + 1, shallow =>
    rw [Tree.record, List.map_map, Decoder.pairs]
    refine mapM_written fun entry entry_mem => ?_
    have member_mem : (name entry.1, write entry.2) ∈
        entries.map fun entry => (name entry.1, write entry.2) := List.mem_map_of_mem entry_mem
    have read := reads entry entry_mem depth (Tree.depth_le_of_mem_record member_mem shallow)
    simp only [Function.comp, bind, Option.bind_some, named, read]
    rfl

theorem reads_oneOf {cases : List (String × α)} {word : String}
    (found : (cases.find? fun entry => entry.1 = word).map Prod.snd = some value) :
    (oneOf cases).Reads (.text word) value := by
  intro depth _
  cases depth <;> exact found

end Decoder

/-! ## Records -/

/-- A field is there with a tree, and the tree is not too deep. -/
structure Record.Holds (record : Record) (name : String) (tree : Tree) : Prop where
  found : record.find? name = some tree
  shallow : tree.depth ≤ record.depth

namespace Record

variable {record : Record} {name : String} {tree : Tree} {decoder : Decoder α}

theorem Holds.required {value : α} (holds : record.Holds name tree)
    (reads : decoder.Reads tree value) : record.required name decoder = some value := by
  rw [Record.required, holds.found]
  exact reads record.depth holds.shallow

theorem Holds.optional {value? : Option α} (holds : record.Holds name tree)
    (reads : decoder.nullable.Reads tree value?) :
    record.optional name decoder = some value? := by
  rw [Record.optional, holds.found]
  exact reads record.depth holds.shallow

end Record

/-- The members that are written for a record are its fields, none left out and none named
twice. -/
theorem namedFields?_written {names : List String} {fields : List (String × Tree)}
    (named : fields.map Prod.fst = names) (distinct : names.Nodup) :
    namedFields? .ignored names (fields.map fun field => (some field.1, field.2)) =
      some fields := by
  have keyed {read : Option String × Tree → Option (String × Tree)}
      (each : ∀ field, read (some field.1, field.2) = some (id field)) :
      (fields.map fun field => (some field.1, field.2)).mapM read = some fields := by
    rw [mapM_written fun field _ => each field, List.map_id]
  have known : (fields.filter fun field => field.1 ∈ names) = fields :=
    List.filter_eq_self.mpr fun field field_mem =>
      decide_eq_true (named ▸ List.mem_map_of_mem field_mem)
  rw [namedFields?, keyed]
  · simp only [bind, Option.bind_some, known, named, distinct, true_and, true_or, if_true]
  · exact fun _ => rfl

theorem Decoder.reads_record {names : List String} {fields : List (String × Tree)}
    {body : Record → Option α} {value : α} (named : fields.map Prod.fst = names)
    (distinct : names.Nodup)
    (read : ∀ record : Record, record.named = true →
      (∀ field ∈ fields, record.Holds field.1 field.2) → body record = some value) :
    (Decoder.record .ignored names body).Reads (.record fields) value := by
  intro depth shallow
  match depth, shallow with
  | depth + 1, shallow =>
    simp only [Decoder.record, Tree.record, namedFields?_written named distinct, bind,
      Option.bind_some]
    refine read _ rfl fun field field_mem => ⟨?_, ?_⟩
    · have found : (OrderedMap.mk fields (named.symm ▸ distinct)).get? field.1 = some field.2 :=
        OrderedMap.get?_eq_some_iff.mpr field_mem
      exact found
    · exact Tree.depth_le_of_mem_record field_mem shallow

end Json

end CodeWorkspace
