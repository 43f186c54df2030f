import OpenPinch.Lib.FileFrames
import OpenPinch.Lib.Op

/-!
# Rules for operations on a disk

`Triple P m Q E`: from a tree with `P`, whatever steps the system refuses, `m`
returns with `Q` or fails with `E`.  `Keeps I` is the triple of an invariant.
The rules follow the operations of `Disk`, and say of the ones that change the
tree what an invariant has to allow.  In a slot the invariant is `Edits`.
-/

namespace Lib.FileSystem

variable {β : Type}

namespace Disk

variable {α γ : Type}

/-- From a tree with `P`, the operation returns with `Q` or fails with `E`. -/
def Triple (P : FileTree β → Prop) (m : DiskM β α) (Q : α → FileTree β → Prop)
    (E : FileTree β → Prop) : Prop :=
  ∀ d, P d.tree → match m d with
    | .ok a d' => Q a d'.tree
    | .error _ d' => E d'.tree

/-- The operation keeps the invariant, however it ends. -/
abbrev Keeps (I : FileTree β → Prop) (m : DiskM β α) : Prop := Triple I m (fun _ => I) I

variable {P P' : FileTree β → Prop} {Q : α → FileTree β → Prop} {R : γ → FileTree β → Prop}
  {E I : FileTree β → Prop}

namespace Triple

theorem ok {m : DiskM β α} (h : Triple P m Q E) {d d' : Disk β} {a : α} (hd : P d.tree)
    (hrun : m d = .ok a d') : Q a d'.tree := by
  have hresult := h d hd
  rw [hrun] at hresult
  exact hresult

theorem error {m : DiskM β α} (h : Triple P m Q E) {d d' : Disk β} {message : String}
    (hd : P d.tree) (hrun : m d = .error message d') : E d'.tree := by
  have hresult := h d hd
  rw [hrun] at hresult
  exact hresult

/-- An invariant holds of the tree that a run leaves. -/
theorem after {m : DiskM β α} (h : Triple P m (fun _ => I) I) {d : Disk β} (hd : P d.tree) :
    I (Op.after m d).tree := by
  have hresult := h d hd
  unfold Op.after
  cases hrun : m d with
  | ok a d' => rw [hrun] at hresult; exact hresult
  | error message d' => rw [hrun] at hresult; exact hresult

theorem of_cases {m : DiskM β α}
    (hok : ∀ d d' a, P d.tree → m d = .ok a d' → Q a d'.tree)
    (herror : ∀ d d' message, P d.tree → m d = .error message d' → E d'.tree) :
    Triple P m Q E := by
  intro d hd
  cases hrun : m d with
  | ok a d' => exact hok d d' a hd hrun
  | error message d' => exact herror d d' message hd hrun

theorem mono {m : DiskM β α} {Q' : α → FileTree β → Prop} {E' : FileTree β → Prop}
    (h : Triple P m Q E) (hP : ∀ t, P' t → P t) (hQ : ∀ a t, Q a t → Q' a t)
    (hE : ∀ t, E t → E' t) : Triple P' m Q' E' :=
  of_cases (fun _ _ a hd hrun => hQ a _ (h.ok (hP _ hd) hrun))
    fun _ _ _ hd hrun => hE _ (h.error (hP _ hd) hrun)

theorem pure {a : α} (h : ∀ t, P t → Q a t) : Triple P (Pure.pure a) Q E := fun d => h d.tree

/-- The tree that an operation starts from. -/
theorem start {m : DiskM β α} (h : ∀ t, P t → Triple (fun t' => t' = t) m Q E) : Triple P m Q E :=
  fun d hd => h d.tree hd d rfl

theorem fail {message : String} (h : ∀ t, P t → E t) : Triple P (fail message) Q E :=
  fun d => h d.tree

/-- Nothing runs behind a failure. -/
theorem fail_bind {message : String} {f : α → DiskM β γ} (h : ∀ t, P t → E t) :
    Triple P (Disk.fail message >>= f) R E :=
  fun d => h d.tree

theorem bind {m : DiskM β α} {f : α → DiskM β γ} (hm : Triple P m Q E)
    (hf : ∀ a, Triple (Q a) (f a) R E) : Triple P (m >>= f) R E := by
  intro d hd
  have hfirst := hm d hd
  show match EStateM.bind m f d with
    | .ok a d' => R a d'.tree
    | .error _ d' => E d'.tree
  unfold EStateM.bind
  cases hrun : m d with
  | ok a d' =>
      rw [hrun] at hfirst
      exact hf a d' hfirst
  | error message d' =>
      rw [hrun] at hfirst
      exact hfirst

theorem ite {c : Prop} [Decidable c] {m m' : DiskM β α} (h : c → Triple P m Q E)
    (h' : ¬ c → Triple P m' Q E) : Triple P (if c then m else m') Q E := by
  by_cases hc : c
  · rw [if_pos hc]
    exact h hc
  · rw [if_neg hc]
    exact h' hc

/-- What an operation keeps joins what it establishes. -/
theorem and {m : DiskM β α} (h : Triple P m Q E) (hI : Keeps I m) :
    Triple (fun t => P t ∧ I t) m (fun a t => Q a t ∧ I t) (fun t => E t ∧ I t) :=
  of_cases (fun _ _ _ hd hrun => ⟨h.ok hd.1 hrun, hI.ok hd.2 hrun⟩)
    fun _ _ _ hd hrun => ⟨h.error hd.1 hrun, hI.error hd.2 hrun⟩

theorem refused : Triple P (Disk.refused (β := β)) (fun _ => P) E := fun _ => id

theorem getTree : Triple P (Disk.getTree (β := β)) (fun tree t => tree = t ∧ P t) E :=
  fun _ hd => ⟨rfl, hd⟩

theorem setTree {tree : FileTree β} {Q : Unit → FileTree β → Prop} (h : ∀ t, P t → Q () tree) :
    Triple P (Disk.setTree tree) Q E :=
  fun d hd => h d.tree hd

end Triple

/-! ## Operations that read -/

theorem triple_read (path : RawPath) (message : String) :
    Triple I (read path message) (fun content t => I t ∧ t.content? path = some content) I := by
  refine Triple.bind Triple.refused fun denied => ?_
  refine Triple.ite (fun _ => Triple.fail_bind fun _ => id) fun _ => ?_
  refine Triple.bind Triple.getTree fun tree => ?_
  cases hcontent : tree.content? path with
  | some content =>
      refine Triple.pure fun t h => ⟨h.2, ?_⟩
      rw [← h.1, hcontent]
  | none => exact Triple.fail fun t h => h.2

theorem keeps_read (path : RawPath) (message : String) : Keeps I (read path message) :=
  (triple_read path message).mono (fun _ => id) (fun _ _ h => h.1) fun _ => id

theorem triple_pathExists (path : RawPath) : Triple P (pathExists path) (fun _ => P) E := by
  refine Triple.bind Triple.refused fun denied => ?_
  refine Triple.ite (fun _ => Triple.pure fun _ => id) fun _ => ?_
  exact Triple.bind Triple.getTree fun tree => Triple.pure fun t h => h.2

theorem triple_isDir (path : RawPath) : Triple P (isDir path) (fun _ => P) E := by
  refine Triple.bind Triple.refused fun denied => ?_
  refine Triple.ite (fun _ => Triple.pure fun _ => id) fun _ => ?_
  exact Triple.bind Triple.getTree fun tree => Triple.pure fun t h => h.2

theorem triple_isDir_answer (path : RawPath) :
    Triple I (isDir (β := β) path)
      (fun there t => I t ∧ (there = true → (t.target? path).any Node.isDir = true)) E := by
  refine Triple.bind Triple.refused fun denied => ?_
  refine Triple.ite (fun _ => Triple.pure fun t h => ⟨h, fun h' => by cases h'⟩) fun _ => ?_
  exact Triple.bind Triple.getTree fun tree => Triple.pure fun t h => ⟨h.2, fun h' => h.1 ▸ h'⟩

/-- What a walk visits: the path alone, unless it leads to a directory. -/
def Visits (t : FileTree β) (path : RawPath) (entries : List (Location × Node β)) : Prop :=
  ∃ node, (entries = [([], node)] ∧
      ∀ location, t.resolve path = .found location → t.node? location ≠ some .dir) ∨
    ∃ location, t.resolve path = .found location ∧ entries = ([], node) :: t.below location

theorem Visits.valid {t : FileTree β} {path : RawPath} {entries : List (Location × Node β)}
    (h : Visits t path entries) {entry : Location × Node β} (hentry : entry ∈ entries) :
    ∀ name ∈ entry.1, ValidName name := by
  obtain ⟨node, ⟨rfl, -⟩ | ⟨location, -, rfl⟩⟩ := h
  · rw [List.mem_singleton.mp hentry]
    exact fun name hname => absurd hname List.not_mem_nil
  · rcases List.mem_cons.mp hentry with rfl | hentry
    · exact fun name hname => absurd hname List.not_mem_nil
    · exact FileTree.validName_of_mem_below hentry

/-- What is below a directory is visited. -/
theorem Visits.mem {t : FileTree β} {path : RawPath} {entries : List (Location × Node β)}
    (h : Visits t path entries) {location : Location} (hfound : t.resolve path = .found location)
    (hdir : t.node? location = some .dir) {entry : Location × Node β}
    (hentry : entry ∈ t.below location) : entry ∈ entries := by
  obtain ⟨node, ⟨-, hother⟩ | ⟨other, hresolve, rfl⟩⟩ := h
  · exact absurd hdir (hother location hfound)
  · rw [hfound] at hresolve
    cases hresolve
    exact List.mem_cons_of_mem _ hentry

theorem triple_walkDir (path : RawPath) :
    Triple I (walkDir path) (fun entries t => I t ∧ Visits t path entries) I := by
  refine Triple.bind Triple.refused fun denied => ?_
  refine Triple.ite (fun _ => Triple.fail_bind fun _ => id) fun _ => ?_
  refine Triple.bind Triple.getTree fun tree => ?_
  split
  · split
    · rename_i node _
      split
      · rename_i location hresolve
        refine Triple.ite (fun _ => ?_) fun hother => ?_
        · exact Triple.pure fun t h =>
            ⟨h.2, node, Or.inr ⟨location, h.1 ▸ hresolve, h.1 ▸ rfl⟩⟩
        · refine Triple.pure fun t h => ⟨h.2, node, Or.inl ⟨rfl, ?_⟩⟩
          rintro found hfound hdir
          rw [← h.1, hresolve] at hfound
          cases hfound
          rw [← h.1] at hdir
          exact hother (by rw [hdir]; rfl)
      · rename_i hlost
        refine Triple.pure fun t h => ⟨h.2, node, Or.inl ⟨rfl, fun location hfound => ?_⟩⟩
        exact absurd (h.1 ▸ hfound) (hlost location)
    · exact Triple.fail fun t h => h.2
  · exact Triple.fail fun t h => h.2

/-! ## Operations that write -/

theorem triple_createDir (path : RawPath) :
    Triple I (createDir path)
      (fun made t => if made = .created then ∃ t', I t' ∧ t'.mkdir path = some t else I t) E := by
  refine Triple.bind Triple.refused fun denied => ?_
  refine Triple.ite (fun _ => Triple.pure fun _ => id) fun _ => ?_
  refine Triple.bind Triple.getTree fun tree => ?_
  cases hmkdir : tree.mkdir path with
  | none =>
      refine Triple.pure fun t ht => ?_
      rw [if_neg (by split <;> simp)]
      exact ht.2
  | some tree' =>
      refine Triple.bind (Triple.setTree fun t ht => ?_) fun _ => Triple.pure fun _ => id
      exact ⟨t, ht.2, ht.1 ▸ hmkdir⟩

theorem triple_mkdir (path : RawPath) :
    Triple I (mkdir path)
      (fun made t => if made then ∃ t', I t' ∧ t'.mkdir path = some t else I t) E :=
  Triple.bind (triple_createDir path) fun made => Triple.pure fun t ht => by simpa using ht

theorem keeps_createDir {path : RawPath}
    (h : ∀ t t', I t → t.mkdir path = some t' → I t') : Keeps I (createDir path) := by
  refine (triple_createDir path).mono (fun _ => id) (fun made t ht => ?_) fun _ => id
  split at ht
  · obtain ⟨t', ht', hmkdir⟩ := ht
    exact h t' t ht' hmkdir
  · exact ht

theorem keeps_mkdir {path : RawPath}
    (h : ∀ t t', I t → t.mkdir path = some t' → I t') : Keeps I (mkdir path) :=
  Triple.bind (keeps_createDir h) fun _ => Triple.pure fun _ => id

/-- The invariant allows each directory on the way to be made. -/
theorem keeps_createDirAllRev {names : List String} (message : String)
    (h : ∀ names', names' <:+ names → ∀ t t', I t → t.mkdir names'.reverse = some t' → I t') :
    Keeps I (createDirAllRev message names) := by
  induction names with
  | nil => exact Triple.pure fun _ => id
  | cons name rest ih =>
      have hhere := h _ (List.suffix_refl _)
      have hrest := ih fun names' hnames' => h names' (hnames'.trans (List.suffix_cons name rest))
      have hthere : Keeps I (do
          if ← isDir (β := β) (name :: rest).reverse then return ()
          fail message) :=
        Triple.bind (triple_isDir _) fun there =>
          Triple.ite (fun _ => Triple.pure fun _ => id) fun _ => Triple.fail fun _ => id
      refine Triple.bind (keeps_createDir hhere) fun made => ?_
      cases made with
      | created => exact Triple.pure fun _ => id
      | failed => exact hthere
      | notFound =>
          refine Triple.bind hrest fun _ => Triple.bind (keeps_mkdir hhere) fun made => ?_
          exact Triple.ite (fun _ => Triple.pure fun _ => id) fun _ => hthere

theorem keeps_forM {items : List α} {visit : α → DiskM β PUnit}
    (h : ∀ item ∈ items, Keeps I (visit item)) : Keeps I (items.forM visit) := by
  induction items with
  | nil => exact Triple.pure fun _ => id
  | cons first rest ih =>
      exact Triple.bind (h first List.mem_cons_self) fun _ =>
        ih fun item hitem => h item (List.mem_cons_of_mem _ hitem)

/-- The invariant allows what lies at the path or below to be removed. -/
theorem keeps_removeDirAll {path : RawPath} (message : String)
    (h : ∀ t location, I t → t.entryLocation? path = some location →
      ∀ t' removed, I t' → location <+: removed → I (t'.remove removed)) :
    Keeps I (removeDirAll path message) := by
  refine Triple.bind Triple.getTree fun tree => ?_
  cases hentry : tree.entryLocation? path with
  | none => exact Triple.fail fun t ht => ht.2
  | some location =>
      refine Triple.ite (fun _ => Triple.fail fun t ht => ht.2) fun _ => ?_
      intro d hd
      have hremovable := h d.tree location hd.2 (hd.1 ▸ hentry)
      refine keeps_forM (fun entry hmem => ?_) d hd.2
      have hbelow : location <+: entry.1 :=
        List.isPrefixOf_iff_prefix.mp (List.mem_filter.mp hmem).2
      refine Triple.bind Triple.refused fun denied => ?_
      refine Triple.ite (fun _ => Triple.fail_bind fun _ => id) fun _ => ?_
      refine Triple.bind Triple.getTree fun tree' => Triple.setTree fun t ht => ?_
      exact ht.1 ▸ hremovable t entry.1 ht.2 hbelow

theorem keeps_unlink (message : String) (location : Location)
    (h : ∀ t, I t → I (t.remove location)) : Keeps I (unlink (β := β) message location) := by
  refine Triple.bind Triple.refused fun denied => ?_
  refine Triple.ite (fun _ => Triple.fail_bind fun _ => id) fun _ => ?_
  exact Triple.bind Triple.getTree fun tree => Triple.setTree fun t ht => ht.1 ▸ h t ht.2

/-- What one turn of a loop establishes and all turns keep. -/
theorem triple_forM_mem {items : List α} {visit : α → DiskM β PUnit} {J : FileTree β → Prop}
    (hkeeps : ∀ item ∈ items, Keeps I (visit item))
    (hboth : ∀ item ∈ items, Keeps (fun t => I t ∧ J t) (visit item)) {item : α}
    (hitem : item ∈ items) (hmakes : Triple I (visit item) (fun _ t => I t ∧ J t) I) :
    Triple I (items.forM visit) (fun _ t => I t ∧ J t) I := by
  induction items with
  | nil => cases hitem
  | cons first rest ih =>
      have hrest := fun other hother => hkeeps other (List.mem_cons_of_mem first hother)
      have hrestBoth := fun other hother => hboth other (List.mem_cons_of_mem first hother)
      rcases List.mem_cons.mp hitem with rfl | hitem
      · refine Triple.bind hmakes fun _ => ?_
        exact (keeps_forM hrestBoth).mono (fun _ => id) (fun _ _ => id) fun _ h => h.1
      · exact Triple.bind (hkeeps first List.mem_cons_self) fun _ => ih hrest hrestBoth hitem

/-- A node that is there stays when directories are made. -/
theorem keeps_createDirAll_node (location : Location) (node : Node β) (path : RawPath)
    (message : String) :
    Keeps (fun t => t.node? location = some node) (createDirAll path message) :=
  keeps_createDirAllRev message fun _ _ _ _ hnode hmkdir => FileTree.node?_mkdir hmkdir hnode

/-- What was read is written. -/
theorem triple_copy {P : FileTree β → Prop} {Q : Unit → FileTree β → Prop}
    {source target : RawPath} (message : String)
    (h : ∀ t t' content, P t → t.content? source = some content →
      t.writeFile target content = some t' → Q () t') :
    Triple P (copy source target message) Q P := by
  refine Triple.bind (triple_read source message) fun content => ?_
  refine Triple.bind Triple.refused fun denied => ?_
  refine Triple.ite (fun _ => Triple.fail_bind fun _ ht => ht.1) fun _ => ?_
  refine Triple.bind Triple.getTree fun tree => ?_
  cases hwrite : tree.writeFile target content with
  | none => exact Triple.fail fun t ht => ht.2.1
  | some tree' =>
      exact Triple.setTree fun t ht => h t tree' content ht.2.1 ht.2.2 (ht.1 ▸ hwrite)

/-! ## Operations in a slot -/

section

open FileTree

variable {t₀ : FileTree β} {path : RawPath} {name : String} {rest : List String}

/-- The directories on the way to the slot are there, so only new ones below are made. -/
theorem keeps_createDirAll_made {J : FileTree β → Prop} (hslot : t₀.Slot path name)
    (hvalid : ∀ other ∈ rest, ValidName other) {goal : RawPath}
    (hgoal : normalize goal <+: normalize path ++ name :: rest)
    (hmade : ∀ t t' made, J t → made <+: normalize goal → t.node? made = none →
      (∀ other, t'.node? other = if other = made then some .dir else t.node? other) → J t')
    (message : String) :
    Keeps (fun t => Edits (normalize path ++ [name]) t₀ t ∧ J t) (createDirAll goal message) := by
  refine keeps_createDirAllRev message fun names hnames t t' ⟨hedits, hJ⟩ hmkdir => ?_
  have hslot' := hslot.edits hedits
  have hway : names.reverse <+: normalize goal := by
    have hreverse := List.reverse_prefix.mpr hnames
    rwa [List.reverse_reverse] at hreverse
  rcases List.prefix_or_prefix_of_prefix (hway.trans hgoal)
    (List.prefix_append (normalize path) (name :: rest)) with ⟨more, hmore⟩ | ⟨init, hinit⟩
  · rw [mkdir_existing (node?_dir_above (hmore ▸ hslot'.dir))] at hmkdir
    cases hmkdir
  · cases init with
    | nil =>
        rw [List.append_nil] at hinit
        rw [mkdir_existing (hinit ▸ hslot'.dir)] at hmkdir
        cases hmkdir
    | cons first more =>
        have hnames' := hway.trans hgoal
        rw [← hinit, List.prefix_append_right_inj, List.cons_prefix_cons] at hnames'
        obtain ⟨rfl, hmore⟩ := hnames'
        have hnames'' : ∀ other ∈ more, ValidName other := fun other hother =>
          hvalid other (hmore.subset hother)
        rw [← hinit] at hmkdir hway
        obtain ⟨parent, last, hlocation, hinsert⟩ := hslot'.mkdir_inserts hnames'' hmkdir
        refine ⟨hedits.trans (hslot'.mkdir_edits hnames'' hmkdir), ?_⟩
        refine hmade t t' (parent ++ [last]) hJ (hlocation ▸ hway)
          (insert_eq_some hinsert).2.2.1 (node?_insert hinsert)

theorem keeps_createDirAll_slot (hslot : t₀.Slot path name)
    (hvalid : ∀ other ∈ rest, ValidName other) {goal : RawPath}
    (hgoal : normalize goal <+: normalize path ++ name :: rest) (message : String) :
    Keeps (Edits (normalize path ++ [name]) t₀) (createDirAll goal message) :=
  (keeps_createDirAll_made (J := fun _ => True) hslot hvalid hgoal
    (fun _ _ _ _ _ _ _ => trivial) message).mono (fun _ h => ⟨h, trivial⟩) (fun _ _ h => h.1)
    fun _ h => h.1

/-- Only directories on the way are made. -/
theorem keeps_createDirAll_free (hslot : t₀.Slot path name)
    (hvalid : ∀ other ∈ rest, ValidName other) {goal : RawPath}
    (hgoal : normalize goal <+: normalize path ++ name :: rest) (message : String)
    {location : Location} (haside : ¬ location <+: normalize goal) :
    Keeps (fun t => Edits (normalize path ++ [name]) t₀ t ∧ t.node? location = none)
      (createDirAll goal message) := by
  refine keeps_createDirAll_made hslot hvalid hgoal (fun t t' made hfree hway _ hother => ?_) _
  rw [hother, if_neg]
  · exact hfree
  · rintro rfl
    exact haside hway

/-- What is found to be a directory below the name is one. -/
theorem node?_of_isDir {t : FileTree β} (hslot : t.Slot path name)
    (hvalid : ∀ other ∈ rest, ValidName other)
    (h : (t.target? (normalize path ++ name :: rest)).any Node.isDir = true) :
    t.node? (normalize path ++ name :: rest) = some .dir := by
  have hleads := hslot.normal.leads hvalid
  rw [normalize_normalize] at hleads
  obtain ⟨location, hresolve, hdir⟩ := target?_isDir_iff.mp h
  exact hleads.found location hresolve ▸ hdir

/-- The directory is there at the end, or the last step to it was not made. -/
theorem triple_createDirAll_goal_of (J : FileTree β → Prop) (hslot : t₀.Slot path name)
    (hvalid : ∀ other ∈ rest, ValidName other) (message : String)
    (hway : ∀ parent last, normalize parent ++ [last] = normalize path ++ name :: rest →
      Keeps (fun t => Edits (normalize path ++ [name]) t₀ t ∧ J t)
        (createDirAll parent message)) :
    Triple (fun t => Edits (normalize path ++ [name]) t₀ t ∧ J t)
      (createDirAll (path ++ name :: rest) message)
      (fun _ t => Edits (normalize path ++ [name]) t₀ t ∧
        t.node? (normalize path ++ name :: rest) = some .dir)
      (fun t => Edits (normalize path ++ [name]) t₀ t ∧ J t) := by
  have hnormal : normalize (path ++ name :: rest) = normalize path ++ name :: rest :=
    normalize_below hslot.valid hvalid
  obtain ⟨init, last, hsplit⟩ : ∃ init last, normalize path ++ name :: rest = init ++ [last] :=
    ⟨_, _, (List.dropLast_append_getLast (by simp)).symm⟩
  have hinit : normalize init = init := normalize_init (hsplit.symm.trans hnormal.symm)
  -- what `mkdir` and `is_dir` say of the goal
  have hmade : ∀ made (t : FileTree β), (if made = true then
        ∃ t', (Edits (normalize path ++ [name]) t₀ t' ∧ J t') ∧ t'.mkdir (init ++ [last]) = some t
      else Edits (normalize path ++ [name]) t₀ t ∧ J t) → made = true →
      Edits (normalize path ++ [name]) t₀ t ∧
        t.node? (normalize path ++ name :: rest) = some .dir := by
    rintro made t h rfl
    rw [if_pos rfl] at h
    obtain ⟨t', ⟨hedits, -⟩, hmkdir⟩ := h
    have hslot' := hslot.edits hedits
    rw [← hsplit] at hmkdir
    obtain ⟨parent, last, hgoal, hinsert⟩ := hslot'.mkdir_inserts hvalid hmkdir
    refine ⟨hedits.trans (hslot'.mkdir_edits hvalid hmkdir), ?_⟩
    rw [node?_insert hinsert, if_pos hgoal.symm]
  have hthere : Triple (fun t => Edits (normalize path ++ [name]) t₀ t ∧ J t)
      (do
        if ← isDir (β := β) (init ++ [last]) then return ()
        fail message)
      (fun _ t => Edits (normalize path ++ [name]) t₀ t ∧
        t.node? (normalize path ++ name :: rest) = some .dir)
      (fun t => Edits (normalize path ++ [name]) t₀ t ∧ J t) := by
    refine Triple.bind (triple_isDir_answer _) fun there =>
      Triple.ite (fun hyes => ?_) fun _ => Triple.fail fun t ht => ht.1
    refine Triple.pure fun t ht => ⟨ht.1.1, ?_⟩
    exact node?_of_isDir (hslot.edits ht.1.1) hvalid (hsplit ▸ ht.2 hyes)
  have hnames : createDirAll (path ++ name :: rest) message =
      createDirAllRev (β := β) message (last :: init.reverse) := by
    unfold createDirAll
    rw [hnormal, hsplit, List.reverse_append, List.reverse_singleton, List.singleton_append]
  have hpath : (last :: init.reverse).reverse = init ++ [last] := by simp
  rw [hnames]
  unfold createDirAllRev
  rw [hpath]
  refine Triple.bind (triple_createDir _) fun made => ?_
  cases made with
  | created =>
      refine Triple.pure fun t ht => ?_
      exact hmade true t (by simpa using ht) rfl
  | failed => exact hthere.mono (fun t ht => by simpa using ht) (fun _ _ => id) fun _ => id
  | notFound =>
      have hrest := hway init last (hinit.symm ▸ hsplit.symm)
      unfold createDirAll at hrest
      rw [hinit] at hrest
      refine Triple.bind (hrest.mono (fun t ht => by simpa using ht) (fun _ _ => id) fun _ => id)
        fun _ => Triple.bind (triple_mkdir _) fun made => ?_
      cases made with
      | true => exact Triple.pure fun t ht => hmade true t ht rfl
      | false => exact hthere.mono (fun t ht => by simpa using ht) (fun _ _ => id) fun _ => id

theorem triple_createDirAll_goal (hslot : t₀.Slot path name)
    (hvalid : ∀ other ∈ rest, ValidName other) (message : String) :
    Triple (Edits (normalize path ++ [name]) t₀) (createDirAll (path ++ name :: rest) message)
      (fun _ t => Edits (normalize path ++ [name]) t₀ t ∧
        t.node? (normalize path ++ name :: rest) = some .dir)
      (Edits (normalize path ++ [name]) t₀) :=
  (triple_createDirAll_goal_of (fun _ => True) hslot hvalid message fun _ _ hparent =>
    keeps_createDirAll_made hslot hvalid (hparent ▸ List.prefix_append _ _)
      (fun _ _ _ _ _ _ _ => trivial) message).mono (fun _ h => ⟨h, trivial⟩) (fun _ _ => id)
    fun _ h => h.1

theorem keeps_removeDirAll_slot (hslot : t₀.Slot path name) (message : String) :
    Keeps (Edits (normalize path ++ [name]) t₀) (removeDirAll (path ++ [name]) message) := by
  refine keeps_removeDirAll message fun t location hedits hlocation t' removed hedits' hbelow => ?_
  have hslot' := hslot.edits hedits
  rw [entryLocation_name hslot'.dir hslot'.valid, Option.map_eq_some_iff] at hlocation
  obtain ⟨_, -, rfl⟩ := hlocation
  exact hedits'.trans (Edits.of_remove hbelow)

/-- A removal that returns has removed the name. -/
theorem triple_removeDirAll_gone (hslot : t₀.Slot path name) (message : String) :
    Triple (Edits (normalize path ++ [name]) t₀) (removeDirAll (path ++ [name]) message)
      (fun _ t => Edits (normalize path ++ [name]) t₀ t ∧
        t.node? (normalize path ++ [name]) = none)
      (Edits (normalize path ++ [name]) t₀) := by
  have hroot : normalize path ++ [name] ≠ [] := by simp
  refine Triple.bind Triple.getTree fun tree => ?_
  cases hlocation : tree.entryLocation? (path ++ [name]) with
  | none => exact Triple.fail fun t ht => ht.2
  | some location =>
      refine Triple.ite (fun _ => Triple.fail fun t ht => ht.2) fun _ => ?_
      refine Triple.start fun t ⟨htree, hedits⟩ => ?_
      subst htree
      have hslot' := hslot.edits hedits
      rw [entryLocation_name hslot'.dir hslot'.valid, Option.map_eq_some_iff] at hlocation
      obtain ⟨node, hnode, rfl⟩ := hlocation
      have hremove : ∀ entry ∈ tree.entries.filter fun entry =>
          (normalize path ++ [name]).isPrefixOf entry.1,
          Keeps (Edits (normalize path ++ [name]) t₀) (unlink message entry.1) := by
        intro entry hentry
        refine keeps_unlink message entry.1 fun t ht => ht.trans (Edits.of_remove ?_)
        exact List.isPrefixOf_iff_prefix.mp (List.mem_filter.mp hentry).2
      have hgone : ∀ entry ∈ tree.entries.filter fun entry =>
          (normalize path ++ [name]).isPrefixOf entry.1,
          Keeps (fun t => Edits (normalize path ++ [name]) t₀ t ∧
            t.node? (normalize path ++ [name]) = none) (unlink message entry.1) :=
        fun entry hentry => (hremove entry hentry).and
          (keeps_unlink message entry.1 fun t ht => node?_remove_none ht)
      have hmem : (normalize path ++ [name], node) ∈ tree.entries.filter fun entry =>
          (normalize path ++ [name]).isPrefixOf entry.1 :=
        List.mem_filter.mpr ⟨mem_of_node? hroot hnode,
          List.isPrefixOf_iff_prefix.mpr (List.prefix_refl _)⟩
      refine (triple_forM_mem hremove hgone hmem ?_).mono (fun t ht => ht ▸ hedits)
        (fun _ _ => id) fun _ => id
      refine Triple.bind Triple.refused fun denied => ?_
      refine Triple.ite (fun _ => Triple.fail_bind fun _ => id) fun _ => ?_
      refine Triple.bind Triple.getTree fun tree' => Triple.setTree fun t ht => ?_
      exact ⟨ht.1 ▸ ht.2.trans (Edits.of_remove (List.prefix_refl _)),
        node?_remove_below hroot (List.prefix_refl _)⟩

/-- The same where links may stand below the name. -/
theorem keeps_removeDirAll_name (hdir : t₀.node? (normalize path) = some .dir)
    (hvalid : ValidName name) (message : String) :
    Keeps (Outside [normalize path ++ [name]] t₀) (removeDirAll (path ++ [name]) message) := by
  refine keeps_removeDirAll message fun t location houtside hlocation t' removed houtside' hbelow =>
    ?_
  have hdir' : t.node? (normalize path) = some .dir := by
    rw [houtside _ fun region hregion hprefix => ?_]
    · exact hdir
    · have hlength := hprefix.length_le
      rw [List.mem_singleton.mp hregion, List.length_append, List.length_singleton] at hlength
      omega
  rw [entryLocation_name hdir' hvalid, Option.map_eq_some_iff] at hlocation
  obtain ⟨_, -, rfl⟩ := hlocation
  exact houtside'.trans (Edits.of_remove hbelow).toOutside

theorem keeps_copy_slot (hslot : t₀.Slot path name)
    (hvalid : ∀ other ∈ rest, ValidName other) (source : RawPath) (message : String) :
    Keeps (Edits (normalize path ++ [name]) t₀)
      (copy source (path ++ name :: rest) message) :=
  triple_copy message fun _ _ _ hedits _ hwrite =>
    hedits.trans ((hslot.edits hedits).writeFile_edits hvalid hwrite)

end

end Disk

end Lib.FileSystem
