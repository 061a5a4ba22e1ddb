import HeaderBindings.Files
import HeaderBindings.Proofs.Encoding

/-!
What is written to a file is read back from it. A change of the files takes no directory away and
leaves links and permissions as they are, so a path that leads somewhere leads to the same place
afterwards.
-/

namespace HeaderBindings
open Text

/-! ### Steps that may fail -/

section
variable {ε α β : Type}

theorem bind_eq_ok_iff {first : Except ε α} {next : α → Except ε β} {value : β} :
    first >>= next = .ok value ↔ ∃ found, first = .ok found ∧ next found = .ok value := by
  cases first with
  | error error => exact ⟨nofun, fun ⟨_, h, _⟩ => nomatch h⟩
  | ok found => exact ⟨fun h => ⟨found, rfl, h⟩, fun ⟨_, hfound, h⟩ => Except.ok.inj hfound ▸ h⟩

/-- A step that a condition refuses succeeds only if the condition does not hold. -/
theorem guarded_eq_ok_iff {refused : Bool} {reason : ε} {rest : Except ε α} {value : α} :
    (if refused then .error reason else rest) = .ok value ↔ refused = false ∧ rest = .ok value := by
  cases refused with
  | false => exact ⟨fun h => ⟨rfl, h⟩, fun h => h.2⟩
  | true => exact ⟨nofun, fun h => nomatch h.1⟩

end

theorem lookup_filter_ne {κ β : Type} [BEq κ] [LawfulBEq κ] {key other : κ} (h : other ≠ key)
    (entries : List (κ × β)) :
    (entries.filter (·.1 != key)).lookup other = entries.lookup other := by
  induction entries with
  | nil => rfl
  | cons entry entries ih =>
      obtain ⟨name, value⟩ := entry
      by_cases hname : name = key
      · have hother : (other == name) = false := by rw [hname]; exact beq_false_of_ne h
        rw [List.filter_cons_of_neg (by simp [hname]), ih, List.lookup_cons, hother]
      · rw [List.filter_cons_of_pos (by simp [hname]), List.lookup_cons, List.lookup_cons, ih]

namespace FileTree
variable {tree before between after : FileTree} {place next : Place} {node : FileNode}
  {name path : String} {content : List UInt8}

/-! ### Nodes -/

@[simp] theorem node?_nil (tree : FileTree) : tree.node? [] = some .directory := if_pos rfl

theorem ne_nil_of_node? (h : tree.node? place ≠ some .directory) : place ≠ [] :=
  fun hroot => h (hroot ▸ node?_nil tree)

theorem node?_put (tree : FileTree) (hplace : place ≠ []) (node : FileNode) (other : Place) :
    (tree.put place node).node? other = if other = place then some node else tree.node? other := by
  by_cases hroot : other = []
  · rw [hroot, node?_nil, node?_nil, if_neg hplace.symm]
  · rw [node?, if_neg hroot, node?, if_neg hroot, put]
    by_cases hother : other = place
    · rw [if_pos hother, hother, List.lookup_cons_self]
    · rw [if_neg hother, List.lookup_cons, beq_false_of_ne hother]
      exact lookup_filter_ne hother tree.nodes

/-! ### Ways that stay -/

/-- No directory is taken away, and what else a path is followed by is the same. -/
structure Keeps (before after : FileTree) : Prop where
  current : after.current = before.current
  links : after.links = before.links
  forbidden : after.forbidden = before.forbidden
  directory : ∀ place, before.node? place = some .directory →
    after.node? place = some .directory

/-- Nothing that was there is changed. -/
structure Extends (before after : FileTree) : Prop extends Keeps before after where
  node : ∀ place node, before.node? place = some node → after.node? place = some node

namespace Keeps

theorem refl (tree : FileTree) : Keeps tree tree := ⟨rfl, rfl, rfl, fun _ h => h⟩

theorem trans (hfirst : Keeps before between) (hsecond : Keeps between after) :
    Keeps before after where
  current := hsecond.current.trans hfirst.current
  links := hsecond.links.trans hfirst.links
  forbidden := hsecond.forbidden.trans hfirst.forbidden
  directory place h := hsecond.directory place (hfirst.directory place h)

/-- A node may be put wherever there is no directory. -/
theorem of_put (h : tree.node? place ≠ some .directory) (node : FileNode) :
    Keeps tree (tree.put place node) where
  current := rfl
  links := rfl
  forbidden := rfl
  directory other hother := by
    have hne : other ≠ place := fun heq => h (heq ▸ hother)
    rw [node?_put tree (ne_nil_of_node? h), if_neg hne, hother]

theorem permits (h : Keeps before after) (place : Place) (access : Access) :
    after.permits place access = before.permits place access := by
  rw [FileTree.permits, h.forbidden, FileTree.permits]

theorem link? (h : Keeps before after) (place : Place) :
    after.link? place = before.link? place := by
  rw [FileTree.link?, h.links, FileTree.link?]

theorem enter (h : Keeps before after) (henter : before.enter place name = .ok next) :
    after.enter place name = .ok next := by
  have hdirectory : before.node? place = some .directory := by
    rw [FileTree.enter] at henter
    split at henter
    · cases henter
    · assumption
    · cases henter
  rw [FileTree.enter, hdirectory] at henter
  rw [FileTree.enter, h.directory place hdirectory, h.permits]
  exact henter

theorem walk (h : Keeps before after) {followLast : Bool} {names : List String} {way : Way}
    (hwalk : before.walk followLast place names = .ok way) :
    after.walk followLast place names = .ok way := by
  induction names generalizing place with
  | nil => exact hwalk
  | cons name names ih =>
      rw [FileTree.walk, bind_eq_ok_iff] at hwalk ⊢
      obtain ⟨next, hnext, hwalk⟩ := hwalk
      refine ⟨next, h.enter hnext, ?_⟩
      rw [h.link?]
      cases hlink : before.link? next with
      | none =>
          rw [hlink] at hwalk
          exact ih hwalk
      | some target =>
          rw [hlink] at hwalk
          exact hwalk

theorem follow (h : Keeps before after) {followLast : Bool} {links : Nat} {names : List String}
    (hfollow : before.follow followLast links place names = .ok next) :
    after.follow followLast links place names = .ok next := by
  induction links generalizing place names with
  | zero => exact hfollow
  | succ links ih =>
      rw [FileTree.follow, bind_eq_ok_iff] at hfollow ⊢
      obtain ⟨way, hway, hfollow⟩ := hfollow
      refine ⟨way, h.walk hway, ?_⟩
      cases way with
      | place there => exact hfollow
      | link directory target rest => exact ih hfollow

/-- A path that leads somewhere leads there still. -/
theorem placeOf (h : Keeps before after) {followLast : Bool}
    (hplace : before.placeOf followLast path = .ok place) :
    after.placeOf followLast path = .ok place := by
  rw [FileTree.placeOf, guarded_eq_ok_iff, guarded_eq_ok_iff] at hplace ⊢
  obtain ⟨hempty, hzero, hplace⟩ := hplace
  rw [h.current]
  exact ⟨hempty, hzero, h.follow hplace⟩

end Keeps

namespace Extends

theorem refl (tree : FileTree) : Extends tree tree := ⟨.refl tree, fun _ _ h => h⟩

theorem trans (hfirst : Extends before between) (hsecond : Extends between after) :
    Extends before after :=
  ⟨hfirst.toKeeps.trans hsecond.toKeeps,
    fun place node h => hsecond.node place node (hfirst.node place node h)⟩

theorem of_put (h : tree.node? place = none) (node : FileNode) :
    Extends tree (tree.put place node) where
  toKeeps := .of_put (by rw [h]; exact nofun) node
  node other found hother := by
    have hne : other ≠ place := fun heq => by
      rw [heq, h] at hother
      cases hother
    rw [node?_put tree (ne_nil_of_node? (by rw [h]; exact nofun)), if_neg hne, hother]

end Extends

/-! ### Writing -/

theorem of_create_eq_ok (h : tree.create place content = .ok after) :
    after = tree.put place (.file content false) := by
  rw [create] at h
  split at h
  · cases h
  · exact (Except.ok.inj (guarded_eq_ok_iff.mp h).2).symm
  · cases h

theorem of_overwrite_eq_ok (h : tree.overwrite place content node = .ok after) :
    (∃ old executable, node = .file old executable ∧
      after = tree.put place (.file content executable)) ∨
    ∃ old sink, node = .device old sink ∧ after = tree := by
  rcases node with _ | ⟨old, executable⟩ | ⟨old, sink⟩
  · cases h
  · exact .inl ⟨old, executable, rfl, (Except.ok.inj h).symm⟩
  · refine .inr ⟨old, sink, rfl, ?_⟩
    cases sink with
    | stream stream => exact (Except.ok.inj h).symm
    | nowhere => exact (Except.ok.inj h).symm
    | failing reason =>
        rw [overwrite] at h
        split at h
        · exact (Except.ok.inj h).symm
        · cases h

/-- Writing to a path writes to a file, perhaps a new one, or to a device, which stays as it is. -/
theorem writeBytes_cases (h : tree.writeBytes path content = .ok after) :
    ∃ place, tree.locate path = .ok place ∧ Path.namesDirectory path = false ∧
      ((tree.node? place ≠ some .directory ∧
        ∃ executable, after = tree.put place (.file content executable)) ∨
      ∃ old sink, tree.node? place = some (.device old sink) ∧ after = tree) := by
  rw [writeBytes, bind_eq_ok_iff] at h
  obtain ⟨place, hplace, h⟩ := h
  refine ⟨place, hplace, ?_⟩
  split at h
  · cases h
  · rename_i node hdirectory hnode
    simp only [guarded_eq_ok_iff] at h
    obtain ⟨-, hname, -, h⟩ := h
    refine ⟨hname, ?_⟩
    obtain ⟨old, executable, rfl, rfl⟩ | ⟨old, sink, rfl, rfl⟩ := of_overwrite_eq_ok h
    · exact .inl ⟨by rw [hnode]; exact nofun, executable, rfl⟩
    · exact .inr ⟨old, sink, hnode, rfl⟩
  · rename_i hnode
    simp only [guarded_eq_ok_iff] at h
    obtain ⟨-, hname, h⟩ := h
    exact ⟨hname, .inl ⟨by rw [hnode]; exact nofun, false, of_create_eq_ok h⟩⟩

theorem keeps_of_writeBytes (h : tree.writeBytes path content = .ok after) : Keeps tree after := by
  obtain ⟨place, -, -, ⟨hplace, executable, rfl⟩ | ⟨old, sink, -, rfl⟩⟩ := writeBytes_cases h
  · exact .of_put hplace _
  · exact .refl after

theorem extends_of_makeDirectory (h : tree.makeDirectory path = .ok after) :
    Extends tree after := by
  rw [makeDirectory, bind_eq_ok_iff] at h
  obtain ⟨place, -, h⟩ := h
  simp only [guarded_eq_ok_iff, Bool.or_eq_false_iff, Option.isSome_eq_false_iff,
    Option.isNone_iff_eq_none] at h
  obtain ⟨⟨-, hnode⟩, -, -, h⟩ := h
  obtain rfl := Except.ok.inj h
  exact .of_put hnode _

/-! ### Reading -/

theorem find_eq_ok_iff :
    tree.find path = .ok node ↔
      ∃ place, tree.locate path = .ok place ∧ tree.node? place = some node ∧
        (node = .directory ∨ Path.namesDirectory path = false) := by
  rw [find, bind_eq_ok_iff]
  refine exists_congr fun place => and_congr_right fun _ => ?_
  rcases tree.node? place with _ | found
  · exact ⟨nofun, fun h => nomatch h.1⟩
  · have hguard : found ≠ .directory → ((if Path.namesDirectory path then .error .notDirectory
        else .ok found : Except FileError FileNode) = .ok node ↔
          some found = some node ∧ (node = .directory ∨ Path.namesDirectory path = false)) := by
      intro hfile
      rw [guarded_eq_ok_iff, Except.ok.injEq, Option.some.injEq]
      constructor
      · rintro ⟨hname, rfl⟩
        exact ⟨rfl, .inr hname⟩
      · rintro ⟨rfl, hname⟩
        exact ⟨hname.resolve_left hfile, rfl⟩
    cases found with
    | directory =>
        rw [Except.ok.injEq, Option.some.injEq]
        exact ⟨fun h => ⟨h, .inl h.symm⟩, fun h => h.1⟩
    | file content executable => exact hguard nofun
    | device content sink => exact hguard nofun

/-- A path that was written to leads to what was written, or to a device. -/
theorem find_of_writeBytes (h : tree.writeBytes path content = .ok after) :
    (∃ executable, after.find path = .ok (.file content executable)) ∨
      ∃ old sink, after.find path = .ok (.device old sink) := by
  obtain ⟨place, hplace, hname, hcases⟩ := writeBytes_cases h
  have hlocate : after.locate path = .ok place := (keeps_of_writeBytes h).placeOf hplace
  obtain ⟨hnode, executable, rfl⟩ | ⟨old, sink, hnode, rfl⟩ := hcases
  · refine .inl ⟨executable, find_eq_ok_iff.mpr ⟨place, hlocate, ?_, .inr hname⟩⟩
    rw [node?_put tree (ne_nil_of_node? hnode), if_pos rfl]
  · exact .inr ⟨old, sink, find_eq_ok_iff.mpr ⟨place, hlocate, hnode, .inr hname⟩⟩

theorem find_of_extends (h : Extends before after) (hfind : before.find path = .ok node) :
    after.find path = .ok node := by
  obtain ⟨place, hplace, hnode, hname⟩ := find_eq_ok_iff.mp hfind
  exact find_eq_ok_iff.mpr ⟨place, h.placeOf hplace, h.node place node hnode, hname⟩

/-- What other paths lead to is not touched. -/
theorem find_of_writeBytes_ne {other : String} (h : tree.writeBytes path content = .ok after)
    (hfind : tree.find other = .ok node) (hne : tree.locate other ≠ tree.locate path) :
    after.find other = .ok node := by
  obtain ⟨there, hthere, hnode, hname⟩ := find_eq_ok_iff.mp hfind
  have hlocate : after.locate other = .ok there := (keeps_of_writeBytes h).placeOf hthere
  refine find_eq_ok_iff.mpr ⟨there, hlocate, ?_, hname⟩
  obtain ⟨place, hplace, -, ⟨hwritten, executable, rfl⟩ | ⟨old, sink, -, rfl⟩⟩ :=
    writeBytes_cases h
  · have hdifferent : there ≠ place := fun heq => hne (by rw [hthere, hplace, heq])
    rw [node?_put tree (ne_nil_of_node? hwritten), if_neg hdifferent, hnode]
  · exact hnode

/-- What a path leads to may be read. -/
def MayRead (tree : FileTree) (path : String) : Prop :=
  ∀ place, tree.locate path = .ok place → tree.permits place .read

theorem readBytes_of_find {executable : Bool} (hread : tree.MayRead path)
    (hfind : tree.find path = .ok (.file content executable)) :
    tree.readBytes path = .ok content := by
  obtain ⟨place, hplace, -⟩ := find_eq_ok_iff.mp hfind
  rw [readBytes, bind_eq_ok_iff]
  refine ⟨_, hfind, bind_eq_ok_iff.mpr ⟨place, hplace, ?_⟩⟩
  rw [guarded_eq_ok_iff, hread place hplace]
  exact ⟨rfl, rfl⟩

theorem readText_of_find {executable : Bool} {text : String} (hread : tree.MayRead path)
    (hfind : tree.find path = .ok (.file (encodeUtf8 text) executable)) :
    tree.readText path = .ok text := by
  rw [readText, bind_eq_ok_iff]
  refine ⟨_, readBytes_of_find hread hfind, ?_⟩
  rw [decodeUtf8_encodeUtf8]
  rfl

end FileTree

/-! ### Changes of several steps -/

namespace FileChange
open FileTree

variable {ε α β : Type} {before : FileTree} {path content : String}

theorem run_bind (first : FileChange ε α) (next : α → FileChange ε β) (before : FileTree) :
    (first >>= next).run.run before
      = match first.run.run before with
        | (.ok found, between) => (next found).run.run between
        | (.error reason, after) => (.error reason, after) := by
  rw [ExceptT.run_bind, StateT.run_bind]
  rcases first.run.run before with ⟨error | found, between⟩
  · rfl
  · rfl

theorem run_ofStep (step : FileTree → Except ε FileTree) (before : FileTree) :
    (ofStep step).run.run before
      = match step before with
        | .ok after => (.ok (), after)
        | .error reason => (.error reason, before) := by
  have hrun : (ofStep step).run.run before
      = ((match step before with
          | .ok tree => set tree
          | .error reason => throw reason : FileChange ε Unit)).run.run before := rfl
  rw [hrun]
  rcases step before with reason | after
  · rfl
  · rfl

/-- Whether it succeeds or fails, the change leaves everything that was there. -/
def OnlyExtends (change : FileChange ε α) : Prop :=
  ∀ before, Extends before (change.run.run before).2

namespace OnlyExtends

theorem of_pure (value : α) : OnlyExtends (pure value : FileChange ε α) := Extends.refl

theorem bind {first : FileChange ε α} {next : α → FileChange ε β} (hfirst : OnlyExtends first)
    (hnext : ∀ found, OnlyExtends (next found)) : OnlyExtends (first >>= next) := by
  intro before
  have hbetween := hfirst before
  rw [run_bind]
  rcases hrun : first.run.run before with ⟨reason | found, between⟩
  · rw [hrun] at hbetween
    exact hbetween
  · rw [hrun] at hbetween
    exact hbetween.trans (hnext found between)

/-- What comes next may depend on the files. -/
theorem get_bind {next : FileTree → FileChange ε β} (hnext : ∀ tree, OnlyExtends (next tree)) :
    OnlyExtends (get >>= next) := fun before => hnext before before

theorem of_step {step : FileTree → Except ε FileTree}
    (hstep : ∀ tree after, step tree = .ok after → tree.Extends after) :
    OnlyExtends (ofStep step) := by
  intro before
  rw [run_ofStep]
  cases h : step before with
  | error reason => exact .refl before
  | ok after => exact hstep before after h

theorem of_adapt {ε' : Type} (account : ε → ε') {change : FileChange ε α}
    (h : OnlyExtends change) : OnlyExtends (ExceptT.adapt account change) := by
  intro before
  have hrun : ((ExceptT.adapt account change).run.run before).2 = (change.run.run before).2 := rfl
  rw [hrun]
  exact h before

end OnlyExtends

theorem onlyExtends_makeUnlessThere (path : String) : OnlyExtends (makeUnlessThere path) := by
  refine .of_step fun tree after h => ?_
  split at h
  · split at h
    · obtain rfl := Except.ok.inj h
      exact .refl tree
    · cases h
  · exact extends_of_makeDirectory h

theorem onlyExtends_makeDirectoriesFrom (fuel : Nat) (path : String) :
    OnlyExtends (makeDirectoriesFrom fuel path) := by
  induction fuel generalizing path with
  | zero => exact .of_pure ()
  | succ fuel ih =>
      rw [makeDirectoriesFrom]
      split
      · exact .of_pure ()
      · refine .get_bind fun tree => ?_
        split
        · exact .bind (ih _) fun _ => onlyExtends_makeUnlessThere path
        · exact onlyExtends_makeUnlessThere path

theorem onlyExtends_ensureDirectory (path : String) : OnlyExtends (ensureDirectory path) := by
  refine .get_bind fun tree => ?_
  split
  · exact .of_pure ()
  · exact .of_adapt _ (onlyExtends_makeDirectoriesFrom _ _)

theorem onlyExtends_ensureParent (path : String) : OnlyExtends (ensureParent path) := by
  rw [ensureParent]
  split
  · split
    · exact .of_pure ()
    · exact onlyExtends_ensureDirectory _
  · exact .of_pure ()

/-- Writing a text makes directories, and then writes to the file if nothing has failed. -/
theorem exists_extends_writeText (path content : String) (before : FileTree) :
    ∃ between, before.Extends between ∧
      ((∃ reason, (writeText path content).run.run before = (.error reason, between)) ∨
      ∃ after, between.writeBytes path (encodeUtf8 content) = .ok after ∧
        (writeText path content).run.run before = (.ok (), after)) := by
  have hbetween := onlyExtends_ensureParent path before
  rw [writeText, run_bind]
  rcases hrun : (ensureParent path).run.run before with ⟨reason | _, between⟩
  · rw [hrun] at hbetween
    exact ⟨between, hbetween, .inl ⟨reason, rfl⟩⟩
  · rw [hrun] at hbetween
    refine ⟨between, hbetween, ?_⟩
    simp only [run_ofStep]
    cases hwrite : between.writeBytes path (encodeUtf8 content) with
    | error reason => exact .inl ⟨_, rfl⟩
    | ok after => exact .inr ⟨after, rfl, rfl⟩

/-- A text that was written is read back, unless it went to a device. -/
theorem find_of_writeText {after : FileTree}
    (h : (writeText path content).run.run before = (.ok (), after)) :
    (∃ executable, after.find path = .ok (.file (encodeUtf8 content) executable)) ∨
      ∃ old sink, after.find path = .ok (.device old sink) := by
  obtain ⟨between, -, ⟨reason, hfails⟩ | ⟨other, hwrite, hother⟩⟩ :=
    exists_extends_writeText path content before
  · cases h.symm.trans hfails
  · cases h.symm.trans hother
    exact find_of_writeBytes hwrite

/-- What was there is still there, but for what the path leads to at the end. -/
theorem find_writeText_of_ne {other : String} {node : FileNode}
    (hfind : before.find other = .ok node) :
    let after := ((writeText path content).run.run before).2
    after.locate other ≠ after.locate path → after.find other = .ok node := by
  intro after hne
  obtain ⟨between, hbetween, ⟨reason, hfails⟩ | ⟨written, hwrite, hwritten⟩⟩ :=
    exists_extends_writeText path content before
  · have hafter : after = between := congrArg Prod.snd hfails
    rw [hafter]
    exact find_of_extends hbetween hfind
  · have hafter : after = written := congrArg Prod.snd hwritten
    have hkept := keeps_of_writeBytes hwrite
    rw [hafter] at hne ⊢
    -- Had the two paths led to one place before the file was written, they would do so behind it.
    refine find_of_writeBytes_ne hwrite (find_of_extends hbetween hfind) fun hsame => hne ?_
    obtain ⟨place, hplace, -⟩ := find_eq_ok_iff.mp (find_of_extends hbetween hfind)
    rw [locate, hkept.placeOf hplace, locate, hkept.placeOf (hsame ▸ hplace)]

end FileChange

end HeaderBindings
