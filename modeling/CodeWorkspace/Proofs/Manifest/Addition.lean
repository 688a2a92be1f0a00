import CodeWorkspace.Manifest.Load
import CodeWorkspace.Proofs.FlushPlan.Documents
import CodeWorkspace.Proofs.Session.Advance

/-!
# What a manifest adds to a project

A manifest fills a project with files, metadata references, references to projects and analyzers, in
this order.  Whether an addition is turned down is told by what was added before, by the identity of
the project and by the references that close a cycle.  What is not turned down comes to the same
whether it is committed one by one or in the groups of a flush plan.
-/

namespace CodeWorkspace

/-- Something that a manifest adds to a project. -/
inductive Addition where
  | file (collection : DocumentCollection) (path : String) (kind : SourceKind) (id : DocumentId)
  | metadata (reference : MetadataReference)
  | project (target : ProjectId)
  | analyzer (path : String)

namespace Addition

variable {comparison : PathComparison} {owner : ProjectId} {closes : ProjectId → Bool}
  {represent : MetadataReference → Representation} {done rest : List Addition}
  {addition : Addition} {project changed : Project}

/-- The edit that makes an addition. -/
def edit : Addition → Edit
  | .file collection path kind id => .addFile collection path kind [] id
  | .metadata reference => .addMetadataReference reference
  | .project target => .addProjectReference { target }
  | .analyzer path => .addAnalyzer path

/-- What an addition submits on its own, by how metadata references are represented. -/
def transition (represent : MetadataReference → Representation) : Addition → Transition
  | .file collection path kind id => .addDocuments collection [.ofFile id path kind []]
  | .metadata reference => .addReference (represent reference)
  | .project target => .addProjectReference { target }
  | .analyzer path => .addAnalyzerReference ⟨path⟩

/-- The document that is added to a collection. -/
def document? (collection : DocumentCollection) : Addition → Option Document
  | .file there path kind id => if there = collection then some (.ofFile id path kind []) else none
  | _ => none

/-- The metadata reference that is added. -/
def reference? : Addition → Option MetadataReference
  | .metadata reference => some reference
  | _ => none

/-- The reference to a project that is added. -/
def line? : Addition → Option ProjectReference
  | .project target => some { target }
  | _ => none

/-- The analyzer that is added. -/
def analyzer? : Addition → Option AnalyzerReference
  | .analyzer path => some ⟨path⟩
  | _ => none

/-- The documents that are added to a collection. -/
def documentsIn (collection : DocumentCollection) (done : List Addition) : List Document :=
  done.filterMap (document? collection)

/-- The metadata references that are added. -/
def referencesIn (done : List Addition) : List MetadataReference := done.filterMap reference?

/-- The references to projects that are added. -/
def linesIn (done : List Addition) : List ProjectReference := done.filterMap line?

/-- The analyzers that are added. -/
def analyzersIn (done : List Addition) : List AnalyzerReference := done.filterMap analyzer?

private theorem filterMap_concat {α : Type} (pick : Addition → Option α) (done : List Addition)
    (addition : Addition) :
    (done ++ [addition]).filterMap pick = done.filterMap pick ++ (pick addition).toList := by
  rw [List.filterMap_append, List.filterMap_cons, List.filterMap_nil]
  cases pick addition <;> rfl

theorem documentsIn_concat (collection : DocumentCollection) (done : List Addition)
    (addition : Addition) :
    documentsIn collection (done ++ [addition]) =
      documentsIn collection done ++ (addition.document? collection).toList :=
  filterMap_concat _ done addition

theorem referencesIn_concat (done : List Addition) (addition : Addition) :
    referencesIn (done ++ [addition]) = referencesIn done ++ addition.reference?.toList :=
  filterMap_concat _ done addition

theorem linesIn_concat (done : List Addition) (addition : Addition) :
    linesIn (done ++ [addition]) = linesIn done ++ addition.line?.toList :=
  filterMap_concat _ done addition

theorem analyzersIn_concat (done : List Addition) (addition : Addition) :
    analyzersIn (done ++ [addition]) = analyzersIn done ++ addition.analyzer?.toList :=
  filterMap_concat _ done addition

/-! ## What is turned down -/

/-- Why an addition that makes sense is turned down after others were made: it was made before, or
it closes a cycle. -/
def clash? (comparison : PathComparison) (owner : ProjectId) (closes : ProjectId → Bool)
    (done : List Addition) : Addition → Option Failure
  | .file collection path _ _ =>
    if ∃ document ∈ documentsIn collection done,
        document.path?.map comparison.key = some (comparison.key path) then
      some (.tracked (.file collection path))
    else none
  | .metadata reference =>
    if reference ∈ referencesIn done then some (.tracked (.metadataReference reference.path))
    else none
  | .project target =>
    if ∃ line ∈ linesIn done, line.target = target then some (.tracked (.projectReference target))
    else if closes target then some (.impossible (.cycleDetected owner target))
    else none
  | .analyzer path =>
    if ⟨path⟩ ∈ analyzersIn done then some (.tracked (.analyzer path)) else none

/-- Why an addition is turned down after others were made. -/
def refusal? (comparison : PathComparison) (owner : ProjectId) (closes : ProjectId → Bool)
    (done : List Addition) (addition : Addition) : Option Failure :=
  (addition.edit.objection? owner).or (addition.clash? comparison owner closes done)

/-- Makes additions after others until one of them is turned down. -/
def accept (comparison : PathComparison) (owner : ProjectId) (closes : ProjectId → Bool)
    (done : List Addition) : List Addition → Except Failure Unit × List Addition
  | [] => (.ok (), done)
  | addition :: rest =>
    match addition.refusal? comparison owner closes done with
    | some failure => (.error failure, done)
    | none => accept comparison owner closes (done ++ [addition]) rest

/-- What was made is where making stopped. -/
theorem accept_prefix (comparison : PathComparison) (owner : ProjectId)
    (closes : ProjectId → Bool) (done rest : List Addition) :
    ∃ made, made <+: rest ∧ (accept comparison owner closes done rest).2 = done ++ made := by
  induction rest generalizing done with
  | nil => exact ⟨[], List.prefix_rfl, (List.append_nil done).symm⟩
  | cons addition rest ih =>
    rw [accept]
    split
    · exact ⟨[], List.nil_prefix, (List.append_nil done).symm⟩
    · obtain ⟨made, made_first, made_eq⟩ := ih (done ++ [addition])
      refine ⟨addition :: made, List.prefix_cons_inj addition |>.mpr made_first, ?_⟩
      rw [made_eq, List.append_assoc, List.singleton_append]

theorem accept_eq_of_ok (made : (accept comparison owner closes done rest).1 = .ok ()) :
    (accept comparison owner closes done rest).2 = done ++ rest := by
  induction rest generalizing done with
  | nil => exact (List.append_nil done).symm
  | cons head rest ih =>
    rw [accept] at made ⊢
    split at made
    · cases made
    · rw [ih made, List.append_assoc, List.singleton_append]

/-! ## The groups of a flush plan -/

/-- The group of a flush plan that an addition belongs to. -/
def group : Addition → Nat
  | .file .source _ _ _ => 0
  | .file .additional _ _ _ => 1
  | .metadata _ => 2
  | .project _ => 3
  | .analyzer _ => 4

/-- Additions that come in the order of their groups are those of each group in turn. -/
theorem map_transition_of_grouped (represent : MetadataReference → Representation)
    (grouped : done.Pairwise fun first second => first.group ≤ second.group) :
    done.map (transition represent) =
      (documentsIn .source done).map (fun document => .addDocuments .source [document]) ++
        (documentsIn .additional done).map (fun document => .addDocuments .additional [document]) ++
        (referencesIn done).map (.addReference ∘ represent) ++
        (linesIn done).map .addProjectReference ++
        (analyzersIn done).map .addAnalyzerReference := by
  induction done with
  | nil => rfl
  | cons head rest ih =>
    obtain ⟨behind, rest_grouped⟩ := List.pairwise_cons.mp grouped
    have nothing {α : Type} (pick : Addition → Option α)
        (picks : ∀ addition, head.group ≤ addition.group → pick addition = none) :
        rest.filterMap pick = [] :=
      List.filterMap_eq_nil_iff.mpr fun addition addition_mem =>
        picks addition (behind addition addition_mem)
    rw [List.map_cons, ih rest_grouped]
    simp only [documentsIn, referencesIn, linesIn, analyzersIn, List.filterMap_cons]
    cases head with
    | file collection path kind id =>
      cases collection with
      | source => simp [document?, reference?, line?, analyzer?, transition]
      | additional =>
        have sources := nothing (document? .source)
          (by rintro (⟨⟨⟩⟩ | _) <;> simp [document?, group])
        simp [document?, reference?, line?, analyzer?, transition, sources]
    | metadata reference =>
      have documents (collection : DocumentCollection) := nothing (document? collection)
        (by rintro (⟨⟨⟩⟩ | _) <;> simp [document?, group])
      simp [document?, reference?, line?, analyzer?, transition, documents]
    | project target =>
      have documents (collection : DocumentCollection) := nothing (document? collection)
        (by rintro (⟨⟨⟩⟩ | _) <;> simp [document?, group])
      have references := nothing reference? (by rintro (_ | _) <;> simp [reference?, group])
      simp [document?, reference?, line?, analyzer?, transition, documents, references]
    | analyzer path =>
      have documents (collection : DocumentCollection) := nothing (document? collection)
        (by rintro (⟨⟨⟩⟩ | _) <;> simp [document?, group])
      have references := nothing reference? (by rintro (_ | _) <;> simp [reference?, group])
      have lines := nothing line? (by rintro (_ | _) <;> simp [line?, group])
      simp [document?, reference?, line?, analyzer?, transition, documents, references, lines]

end Addition

end CodeWorkspace
