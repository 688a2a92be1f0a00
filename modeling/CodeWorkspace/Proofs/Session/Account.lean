import CodeWorkspace.Proofs.Session.Turnover

/-!
# Accounts of metadata references

How a metadata reference is represented is not recorded anywhere: when it is taken out, that is
found out anew.  An account remembers, from outside, what each committed reference of a project was
represented as when it was committed, and which removals later found another reference to a project
in its place.  While the project and the account change together, a reference that was committed as
itself stays listed, and a reference to a project keeps a holder for each metadata reference that
was converted into it, except for those that such removals have taken.
-/

namespace CodeWorkspace

/-! ## Accounts -/

/-- What a metadata reference was represented as when it was committed. -/
structure Entry where
  kept : Representation
  /-- The project that published at the path of the reference then. -/
  publisher? : Option ProjectId
  deriving DecidableEq

/-- A removal of a metadata reference that was represented as a reference to a project which the
metadata reference had not been converted into. -/
structure Stray where
  reference : MetadataReference
  line : ProjectReference
  deriving DecidableEq

/-- Whether a representation is still there, or has gone together with a project that was
removed. -/
def Representation.lastsIn (snapshot : Snapshot) : Representation → Bool
  | .structural line => snapshot.contains line.target
  | .content _ => true

/-- What is remembered of the metadata references of a project. -/
structure Account where
  /-- The committed references whose representation is still there. -/
  entries : MetadataReference → Option Entry := fun _ => none
  strays : List Stray := []

namespace Account

/-- What a reference was represented as when it was committed. -/
def kept? (account : Account) (reference : MetadataReference) : Option Representation :=
  (account.entries reference).map Entry.kept

/-- How many references were converted into a reference to a project. -/
def convertedInto (account : Account) (references : List MetadataReference)
    (line : ProjectReference) : Nat :=
  references.countP fun reference => account.kept? reference = some (.structural line)

/-- How many removals have found a reference to a project in the place of something else. -/
def straysOn (account : Account) (line : ProjectReference) : Nat :=
  account.strays.countP fun stray => stray.line = line

/-- A project still has what a committed reference was represented as.  A reference to a project has
a holder for each of the references that were converted into it, but for those that strays have
taken. -/
def Upholds (account : Account) (project : Project) (draft : Draft)
    (reference : MetadataReference) : Representation → Prop
  | .content kept => kept = reference ∧ reference ∈ project.metadataReferences
  | .structural line =>
    account.convertedInto draft.committedReferences line ≤
        (project.holding line).converted + account.straysOn line ∧
      (account.straysOn line < account.convertedInto draft.committedReferences line →
        line ∈ project.projectReferences)

/-- Whether the removal of a reference finds something else in its place. -/
def stray? (account : Account) (reference : MetadataReference) : Representation → Option Stray
  | .structural line =>
    if account.kept? reference = some (.structural line) then none else some { reference, line }
  | .content _ => none

/-- The account after a portion of what is done to the project. -/
def follow (account : Account) (before after : Session) : Account where
  entries reference :=
    if reference ∈ after.draft.committedReferences then
      if reference ∈ before.draft.committedReferences then
        (account.entries reference).filter fun entry => entry.kept.lastsIn after.current
      else
        some
          { kept := before.represent reference
            publisher? := before.host.outputs.owner? reference.path }
    else none
  strays := account.strays ++ (before.draft.withdrawn after.draft).filterMap fun reference =>
    account.stray? reference (before.represent reference)

variable {account : Account} {before after : Session} {project changed : Project}
  {reference : MetadataReference} {line : ProjectReference}

/-- An account agrees with a project and its draft. -/
structure Fits (account : Account) (snapshot : Snapshot) (project : Project) (draft : Draft) :
    Prop where
  committed : ∀ reference entry, account.entries reference = some entry →
    reference ∈ draft.committedReferences
  content : ∀ reference kept publisher?,
    account.entries reference = some ⟨.content kept, publisher?⟩ →
      kept = reference ∧ reference ∈ project.metadataReferences
  structural : ∀ reference line publisher?,
    account.entries reference = some ⟨.structural line, publisher?⟩ →
      snapshot.StandsFor draft.id reference publisher? line
  holders : ∀ line, account.convertedInto draft.committedReferences line ≤
    (project.holding line).converted + account.straysOn line
  /-- What is listed was committed as itself, or was left behind by a removal. -/
  listed : ∀ reference ∈ project.metadataReferences,
    (∃ publisher?, account.entries reference = some ⟨.content reference, publisher?⟩) ∨
      ∃ stray ∈ account.strays, stray.reference = reference

theorem mem_projectReferences_of_converted (held : 0 < (project.holding line).converted) :
    line ∈ project.projectReferences := by
  refine Decidable.byContradiction fun absent => ?_
  rw [Project.holding_of_not_mem absent] at held
  exact Nat.lt_irrefl 0 held

theorem Fits.upholds {snapshot : Snapshot} {draft : Draft}
    (fits : account.Fits snapshot project draft) {entry : Entry}
    (found : account.entries reference = some entry) :
    account.Upholds project draft reference entry.kept := by
  obtain ⟨kept, publisher?⟩ := entry
  cases kept with
  | content kept => exact fits.content reference kept publisher? found
  | structural line =>
    have covered := fits.holders line
    exact ⟨covered, fun fewer => mem_projectReferences_of_converted (by omega)⟩

/-- A committed reference that was converted into a line counts among those that were. -/
theorem convertedInto_pos {references : List MetadataReference} {publisher? : Option ProjectId}
    (committed : reference ∈ references)
    (entered : account.entries reference = some ⟨.structural line, publisher?⟩) :
    0 < account.convertedInto references line := by
  rw [convertedInto, List.countP_pos_iff]
  exact ⟨reference, committed, by simp [kept?, entered]⟩

/-- What is upheld is there as a whole where no stray has taken from it. -/
theorem Upholds.kept {draft : Draft} {entry : Entry}
    (upholds : account.Upholds project draft reference entry.kept)
    (committed : reference ∈ draft.committedReferences)
    (entered : account.entries reference = some entry) :
    entry.kept = .content reference ∧ reference ∈ project.metadataReferences ∨
      ∃ line, entry.kept = .structural line ∧
        (account.straysOn line = 0 → line ∈ project.projectReferences ∧
          account.convertedInto draft.committedReferences line ≤
            (project.holding line).converted) := by
  obtain ⟨kept, publisher?⟩ := entry
  cases kept with
  | content kept =>
    obtain ⟨rfl, listed⟩ := upholds
    exact .inl ⟨rfl, listed⟩
  | structural line =>
    obtain ⟨covered, present⟩ := upholds
    have counted := convertedInto_pos committed entered
    exact .inr ⟨line, rfl, fun unstrayed => ⟨present (by omega), by omega⟩⟩

theorem fits_ofInfo (comparison : PathComparison) (snapshot : Snapshot) (info : ProjectInfo) :
    ({} : Account).Fits snapshot (.ofInfo info) (.ofInfo comparison info) where
  committed _ _ found := by cases found
  content _ _ _ found := by cases found
  structural _ _ _ found := by cases found
  holders _ := Nat.zero_le _
  listed _ present := by cases present

/-! ## Nothing is turned over -/

theorem Fits.entries_follow_of_same (fits : account.Fits before.current project before.draft)
    (committed_eq : after.draft.committedReferences = before.draft.committedReferences)
    (reference : MetadataReference) : (account.follow before after).entries reference =
      (account.entries reference).filter fun entry => entry.kept.lastsIn after.current := by
  simp only [follow, committed_eq]
  split
  · rfl
  · rename_i uncommitted
    cases found : account.entries reference with
    | none => rfl
    | some entry => exact absurd (fits.committed reference entry found) uncommitted

theorem strays_follow_of_same
    (committed_eq : after.draft.committedReferences = before.draft.committedReferences) :
    (account.follow before after).strays = account.strays := by
  have none_leaves : before.draft.withdrawn after.draft = [] := by
    rw [Draft.withdrawn, committed_eq, List.filter_eq_nil_iff]
    simp
  simp [follow, none_leaves]

/-- What lasts was there before, and is no reference to a project that has been removed. -/
theorem Fits.lasted (fits : account.Fits before.current project before.draft)
    (committed_eq : after.draft.committedReferences = before.draft.committedReferences)
    {entry : Entry} (found : (account.follow before after).entries reference = some entry) :
    account.entries reference = some entry ∧ entry.kept.lastsIn after.current = true := by
  rw [fits.entries_follow_of_same committed_eq] at found
  exact Option.filter_eq_some_iff.mp found

theorem Fits.convertedInto_follow_of_same
    (fits : account.Fits before.current project before.draft)
    (committed_eq : after.draft.committedReferences = before.draft.committedReferences)
    (line : ProjectReference) :
    (account.follow before after).convertedInto after.draft.committedReferences line ≤
      if after.current.contains line.target then
        account.convertedInto before.draft.committedReferences line
      else 0 := by
  have kept_of {reference : MetadataReference}
      (kept : (account.follow before after).kept? reference = some (.structural line)) :
      account.kept? reference = some (.structural line) ∧
        after.current.contains line.target = true := by
    obtain ⟨entry, found, entry_kept⟩ := Option.map_eq_some_iff.mp kept
    obtain ⟨old, lasts⟩ := fits.lasted committed_eq found
    rw [entry_kept] at lasts
    exact ⟨Option.map_eq_some_iff.mpr ⟨entry, old, entry_kept⟩, lasts⟩
  rw [convertedInto, committed_eq]
  split
  · refine List.countP_mono_left fun reference _ kept => ?_
    simp only [decide_eq_true_eq] at kept ⊢
    exact (kept_of kept).1
  · rename_i absent
    rw [Nat.le_zero, List.countP_eq_zero]
    intro reference _ kept
    simp only [decide_eq_true_eq] at kept
    exact absent (kept_of kept).2

/-- An account follows when no reference of the project is committed or withdrawn; references to a
project that has been removed are gone. -/
theorem Fits.still (fits : account.Fits before.current project before.draft)
    (id_eq : after.draft.id = before.draft.id)
    (committed_eq : after.draft.committedReferences = before.draft.committedReferences)
    (metadata_eq : changed.metadataReferences = project.metadataReferences)
    (converted_eq : ∀ line, after.current.contains line.target = true →
      (changed.holding line).converted = (project.holding line).converted) :
    (account.follow before after).Fits after.current changed after.draft where
  committed reference entry found := by
    rw [committed_eq]
    exact fits.committed reference entry (fits.lasted committed_eq found).1
  content reference kept publisher? found := by
    rw [metadata_eq]
    exact fits.content reference kept publisher? (fits.lasted committed_eq found).1
  structural reference line publisher? found := by
    obtain ⟨old, lasts⟩ := fits.lasted committed_eq found
    rw [id_eq]
    exact (fits.structural reference line publisher? old).of_present lasts
  holders line := by
    have fewer := fits.convertedInto_follow_of_same committed_eq line
    rw [straysOn, strays_follow_of_same committed_eq]
    split at fewer
    · rename_i present
      rw [converted_eq line present]
      exact Nat.le_trans fewer (fits.holders line)
    · exact Nat.le_trans fewer (Nat.zero_le _)
  listed reference present := by
    rw [metadata_eq] at present
    rw [strays_follow_of_same committed_eq, fits.entries_follow_of_same committed_eq]
    refine (fits.listed reference present).imp_left ?_
    rintro ⟨publisher?, found⟩
    exact ⟨publisher?, by rw [found]; rfl⟩

/-- As long as no project is removed, every committed reference has an entry. -/
theorem Fits.exists_entry (fits : account.Fits before.current project before.draft)
    (complete : ∀ reference ∈ before.draft.committedReferences,
      ∃ entry, account.entries reference = some entry)
    (grows : ∀ id, before.current.contains id = true → after.current.contains id = true)
    (committed : reference ∈ after.draft.committedReferences) :
    ∃ entry, (account.follow before after).entries reference = some entry := by
  simp only [follow, if_pos committed]
  split
  · rename_i known
    obtain ⟨⟨kept, publisher?⟩, found⟩ := complete reference known
    refine ⟨⟨kept, publisher?⟩, ?_⟩
    rw [found, Option.filter_some, if_pos]
    cases kept with
    | content kept => rfl
    | structural line =>
      exact grows line.target (fits.structural reference line publisher? found).present
  · exact ⟨_, rfl⟩

/-! ## References are turned over -/

theorem entries_follow_of_entered
    (enters : reference ∈ before.draft.entered after.draft) :
    (account.follow before after).entries reference =
      some ⟨before.represent reference, before.host.outputs.owner? reference.path⟩ := by
  obtain ⟨committed, uncommitted⟩ := Draft.mem_entered.mp enters
  simp only [follow, if_pos committed, if_neg uncommitted]

theorem entries_follow_of_uncommitted (uncommitted : reference ∉ after.draft.committedReferences) :
    (account.follow before after).entries reference = none := by
  simp only [follow, if_neg uncommitted]

/-- A reference that stays committed is represented as before if its project is still there. -/
theorem Fits.entries_follow_of_stays (fits : account.Fits before.current project before.draft)
    (contains_eq : ∀ id, after.current.contains id = before.current.contains id)
    (old : reference ∈ before.draft.committedReferences)
    (stays : reference ∈ after.draft.committedReferences) :
    (account.follow before after).entries reference = account.entries reference := by
  simp only [follow, if_pos stays, if_pos old]
  cases found : account.entries reference with
  | none => rfl
  | some entry =>
    obtain ⟨kept, publisher?⟩ := entry
    rw [Option.filter_some, if_pos]
    cases kept with
    | content kept => rfl
    | structural line =>
      have stands := fits.structural reference line publisher? found
      exact (contains_eq line.target).trans stands.present

theorem straysOn_follow (line : ProjectReference) :
    (account.follow before after).straysOn line = account.straysOn line +
      (before.draft.withdrawn after.draft).countP fun reference =>
        before.represent reference = .structural line ∧
          account.kept? reference ≠ some (.structural line) := by
  rw [straysOn, follow, List.countP_append, List.countP_filterMap, straysOn]
  congr 1
  refine List.countP_congr fun reference _ => ?_
  cases represented : before.represent reference with
  | content kept => simp [stray?]
  | structural found =>
    by_cases same : found = line
    · subst same
      by_cases own : account.kept? reference = some (.structural found) <;> simp [stray?, own]
    · by_cases own : account.kept? reference = some (.structural found) <;>
        simp [stray?, own, same]

theorem mem_strays_follow {stray : Stray} (leaves : reference ∈ before.draft.withdrawn after.draft)
    (strays : account.stray? reference (before.represent reference) = some stray) :
    stray ∈ (account.follow before after).strays :=
  List.mem_append_right _ (List.mem_filterMap.mpr ⟨reference, leaves, strays⟩)

/-- The references that were converted into a line are those that were before, without those that
have been withdrawn, and those that have entered. -/
theorem Fits.convertedInto_follow (fits : account.Fits before.current project before.draft)
    (distinct : before.draft.committedReferences.Nodup)
    (after_distinct : after.draft.committedReferences.Nodup)
    (contains_eq : ∀ id, after.current.contains id = before.current.contains id)
    (line : ProjectReference) :
    (account.follow before after).convertedInto after.draft.committedReferences line +
        account.convertedInto (before.draft.withdrawn after.draft) line =
      account.convertedInto before.draft.committedReferences line +
        (before.draft.entered after.draft).countP fun reference =>
          before.represent reference = .structural line := by
  -- what a reference is or was represented as, be it old or new
  let standing (reference : MetadataReference) : Bool :=
    if reference ∈ before.draft.committedReferences then
      account.kept? reference = some (.structural line)
    else before.represent reference = .structural line
  have old {references : List MetadataReference}
      (within : ∀ reference ∈ references, reference ∈ before.draft.committedReferences) :
      account.convertedInto references line = references.countP standing :=
    List.countP_congr fun reference reference_mem => by
      simp only [standing, if_pos (within reference reference_mem)]
  have all : (account.follow before after).convertedInto after.draft.committedReferences line =
      after.draft.committedReferences.countP standing := by
    refine List.countP_congr fun reference committed => ?_
    by_cases known : reference ∈ before.draft.committedReferences
    · have same : (account.follow before after).kept? reference = account.kept? reference :=
        congrArg (Option.map Entry.kept) (fits.entries_follow_of_stays contains_eq known committed)
      simp only [standing, if_pos known, same]
    · have enters := Draft.mem_entered.mpr ⟨committed, known⟩
      simp [standing, kept?, entries_follow_of_entered enters, known]
  have new : ((before.draft.entered after.draft).countP fun reference =>
      before.represent reference = .structural line) =
        (before.draft.entered after.draft).countP standing :=
    List.countP_congr fun reference enters => by
      simp only [standing, if_neg (Draft.mem_entered.mp enters).2]
  rw [all, new, old fun _ known => known,
    old fun _ leaves => (Draft.mem_withdrawn.mp leaves).1, ← List.countP_append,
    ← List.countP_append]
  exact (Draft.perm_turned distinct after_distinct).countP_eq standing

/-- Removals that release a line are those of references that were converted into it, and
strays. -/
theorem countP_withdrawn_le (account : Account) (references : List MetadataReference)
    (represent : MetadataReference → Representation) (line : ProjectReference) :
    (references.countP fun reference => represent reference = .structural line) ≤
      (references.countP fun reference => represent reference = .structural line ∧
          account.kept? reference ≠ some (.structural line)) +
        account.convertedInto references line := by
  rw [List.countP_eq_countP_filter_add references _
    fun reference => account.kept? reference ≠ some (.structural line), List.countP_filter,
    List.countP_filter]
  refine Nat.add_le_add (List.countP_mono_left fun reference _ found => ?_)
    (List.countP_mono_left fun reference _ found => ?_)
  · simpa using found
  · simp only [Bool.and_eq_true, Bool.not_eq_true', decide_eq_false_iff_not, not_not] at found
    exact decide_eq_true found.2

/-- An entry was there before, or is that of a reference that has entered. -/
theorem Fits.entries_follow_cases (fits : account.Fits before.current project before.draft)
    (contains_eq : ∀ id, after.current.contains id = before.current.contains id) {entry : Entry}
    (found : (account.follow before after).entries reference = some entry) :
    reference ∈ after.draft.committedReferences ∧
      (account.entries reference = some entry ∨
        reference ∈ before.draft.entered after.draft ∧
          ⟨before.represent reference, before.host.outputs.owner? reference.path⟩ = entry) := by
  by_cases committed : reference ∈ after.draft.committedReferences
  · refine ⟨committed, ?_⟩
    by_cases known : reference ∈ before.draft.committedReferences
    · rw [fits.entries_follow_of_stays contains_eq known committed] at found
      exact Or.inl found
    · have enters := Draft.mem_entered.mpr ⟨committed, known⟩
      rw [entries_follow_of_entered enters] at found
      exact Or.inr ⟨enters, Option.some.inj found⟩
  · rw [entries_follow_of_uncommitted committed] at found
    cases found

/-- What is listed after a turnover and was listed before is committed still, or was left behind. -/
theorem Fits.listed_follow (fits : account.Fits before.current project before.draft)
    (contains_eq : ∀ id, after.current.contains id = before.current.contains id)
    (old : reference ∈ project.metadataReferences)
    (stays : ¬ (reference ∈ before.draft.withdrawn after.draft ∧
      before.represent reference = .content reference)) :
    (∃ publisher?, (account.follow before after).entries reference =
        some ⟨.content reference, publisher?⟩) ∨
      ∃ stray ∈ (account.follow before after).strays, stray.reference = reference := by
  rcases fits.listed reference old with ⟨publisher?, found⟩ | ⟨stray, stray_mem, about⟩
  · have known := fits.committed reference _ found
    by_cases committed : reference ∈ after.draft.committedReferences
    · refine Or.inl ⟨publisher?, ?_⟩
      rw [fits.entries_follow_of_stays contains_eq known committed]
      exact found
    · -- it was committed as itself and is withdrawn, but not as itself, or it would be gone
      have leaves := Draft.mem_withdrawn.mpr ⟨known, committed⟩
      cases represented : before.represent reference with
      | content kept =>
        rw [before.sensible_represent.same reference kept represented] at represented
        exact absurd ⟨leaves, represented⟩ stays
      | structural line =>
        refine Or.inr ⟨⟨reference, line⟩, mem_strays_follow leaves ?_, rfl⟩
        rw [represented, stray?, kept?, found, if_neg (by simp)]
  · exact Or.inr ⟨stray, List.mem_append_left _ stray_mem, about⟩

/-- An account follows a turnover. -/
theorem Fits.turnover (fits : account.Fits before.current project before.draft)
    (tracks : Draft.TracksReferences project before.draft)
    (after_tracks : Draft.TracksReferences changed after.draft)
    (id_eq : after.draft.id = before.draft.id)
    (contains_eq : ∀ id, after.current.contains id = before.current.contains id)
    (turnover : Draft.Turnover before.represent project before.draft changed after.draft) :
    (account.follow before after).Fits after.current changed after.draft where
  committed _ _ found := (fits.entries_follow_cases contains_eq found).1
  content reference kept publisher? found := by
    obtain ⟨committed, old | ⟨enters, new⟩⟩ := fits.entries_follow_cases contains_eq found
    · obtain ⟨same, present⟩ := fits.content reference kept publisher? old
      refine ⟨same, (turnover.listed reference).mpr ⟨Or.inl present, fun leaves => ?_⟩⟩
      exact (Draft.mem_withdrawn.mp leaves.1).2 committed
    · have represented : before.represent reference = .content kept := congrArg Entry.kept new
      have same := before.sensible_represent.same reference kept represented
      rw [same] at represented
      refine ⟨same, (turnover.listed reference).mpr
        ⟨Or.inr ⟨enters, represented⟩, fun leaves => ?_⟩⟩
      exact (Draft.mem_withdrawn.mp leaves.1).2 committed
  structural reference line publisher? found := by
    rw [id_eq]
    obtain ⟨_, old | ⟨_, new⟩⟩ := fits.entries_follow_cases contains_eq found
    · have stands := fits.structural reference line publisher? old
      exact stands.of_present ((contains_eq _).trans stands.present)
    · obtain ⟨represented, publisher_eq⟩ := Entry.mk.injEq .. ▸ new
      rw [← publisher_eq]
      have stands := standsFor_of_reconcile represented
      exact stands.of_present ((contains_eq _).trans stands.present)
  holders line := by
    have balance := fits.convertedInto_follow tracks.nodup_committed
      after_tracks.nodup_committed contains_eq line
    have released := account.countP_withdrawn_le (before.draft.withdrawn after.draft)
      before.represent line
    have covered := fits.holders line
    rw [turnover.converted, straysOn_follow]
    omega
  listed reference present := by
    obtain ⟨old | ⟨enters, represented⟩, stays⟩ := (turnover.listed reference).mp present
    · exact fits.listed_follow contains_eq old stays
    · refine Or.inl ⟨before.host.outputs.owner? reference.path, ?_⟩
      rw [entries_follow_of_entered enters, represented]

end Account

end CodeWorkspace
