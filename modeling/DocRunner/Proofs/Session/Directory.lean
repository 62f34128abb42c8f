import DocRunner.Proofs.Run.SameDirectory
import DocRunner.Proofs.Session.LogLevel
import DocRunner.Proofs.Tree.Read

/-!
# Changes of directory

* `Tree.LeadsToDirectory t path` : a path leads to a directory, links followed;
* `Tree.not_leadsToDirectory_iff` : what else becomes of a path: it is refused, or leads to a file or a tool;
* `Shell.changeDirectory_of_leads`, `Shell.changeDirectory_of_not_leads` : what a change comes to;
* `Shell.path_movedTo` : behind a change, a path is read as both paths are, joined;
* `Session.taken x dirs` : the paths, of those that the directory is changed by, whose changes are done;
* `Session.stepAll_changeDirectory` : a row of changes comes to the start joined with these;
* `Session.changes_of_directory` : changes one by one, in a row and put together.
-/

namespace DocRunner

/-! ## Paths to directories -/

namespace Tree

variable {t : Tree} {path : String}

/-- A path leads to a directory, links followed. -/
def LeadsToDirectory (t : Tree) (path : String) : Prop :=
  ∃ d, t.resolve [] path = .ok d ∧ t.lookup d = some .directory

theorem isDirectory_iff : t.isDirectory [] path = true ↔ t.LeadsToDirectory path := by
  unfold isDirectory LeadsToDirectory
  simp only [← resolveDirectory_eq_ok]
  cases t.resolveDirectory [] path with
  | error why => simp [Except.isOk, Except.toBool]
  | ok d => simp [Except.isOk, Except.toBool]

/-- A path that leads to no directory is refused, or leads to a file or a tool: never to a link. -/
theorem not_leadsToDirectory_iff : ¬ t.LeadsToDirectory path ↔
    (∃ why, t.resolve [] path = .error why) ∨
      ∃ place, t.resolve [] path = .ok place ∧
        ((∃ bytes, t.lookup place = some (.file bytes)) ∨ ∃ tool, t.lookup place = some (.tool tool)) := by
  unfold LeadsToDirectory
  cases hr : t.resolve [] path with
  | error why => simp
  | ok place =>
    obtain ⟨e, he, hlink⟩ := lookup_of_resolve rfl hr
    cases e with
    | link target => exact absurd rfl (hlink target)
    | _ => simp [he]

/-- A link leads to a directory only if what it says does. -/
theorem LeadsToDirectory.of_link {d : Location} {name target : String} (hd : t.resolveDirectory [] path = .ok d)
    (hl : t.lookup (name :: d) = some (.link target)) (h : t.LeadsToDirectory (Path.join path name)) :
    ∃ e, t.follow linkLimit (origin target d) (Path.components target) = .ok e ∧
      t.lookup e = some .directory := by
  obtain ⟨e, hr, he⟩ := h
  have hn := isName_of_lookup hl
  obtain ⟨-, h₁, h₂⟩ := Path.ne_of_isName hn
  obtain ⟨left, hle, hleft⟩ := resolve_join_of_directory hd
  by_cases hlen : pathLimit < (Path.join path name).utf8ByteSize
  · rw [resolve_join (follow_stem hd).1 hn, if_pos hlen] at hr
    cases hr
  rw [hleft name hn hlen] at hr
  by_cases h₃ : nameLimit < name.utf8ByteSize
  · rw [follow_of_refused (advance_long (lookup_up hl) h₁ h₂ h₃)] at hr
    cases hr
  have hlinked : t.advance d [name] = .linked target d [] := by
    rw [advance_name (lookup_up hl) h₁ h₂ h₃, hl]
  cases left with
  | zero =>
    rw [follow_of_linked_zero hlinked] at hr
    cases hr
  | succ left =>
    rw [follow_of_linked hlinked, List.append_nil] at hr
    exact ⟨e, follow_mono hr nofun (by omega), he⟩

/-- No path with a NUL is looked up. -/
theorem resolve_of_nul {start : Location} (h : '\x00' ∈ path.toList) :
    t.resolve start path = .error .nulInPath := by
  rw [resolve, checkPath, if_pos (by simpa using h)]

end Tree

/-! ## One change -/

namespace Shell

variable {sh : Shell} {t : Tree} {dir : String}

theorem changeDirectory_of_leads (h : t.LeadsToDirectory (sh.path dir)) :
    sh.changeDirectory t dir = .ok (sh.movedTo (sh.path dir)) :=
  if_pos (Tree.isDirectory_iff.2 h)

theorem changeDirectory_of_not_leads (h : ¬ t.LeadsToDirectory (sh.path dir)) :
    sh.changeDirectory t dir = .error (.noDirectory (sh.path dir)) :=
  if_neg (mt Tree.isDirectory_iff.1 h)

/-- In the directory that a path leads to, another path is read as both are, joined. -/
theorem path_movedTo (sh : Shell) (a b : String) : (sh.movedTo (sh.path a)).path b = sh.path (Path.join a b) :=
  Path.join_assoc sh.directory a b

theorem nul_mem_path (h : '\x00' ∈ dir.toList) : '\x00' ∈ (sh.path dir).toList := by
  unfold path
  cases habs : Path.isAbsolute dir with
  | true => rwa [Path.join_of_absolute sh.directory habs]
  | false =>
    obtain ⟨slash, hjoin⟩ := Path.exists_join_eq sh.directory habs
    rw [hjoin, String.toList_append]
    exact List.mem_append_right _ h

end Shell

/-! ## Rows of changes -/

/-- A step was done. -/
def Reply.isDone : Reply → Bool
  | .done => true
  | _ => false

namespace Session

variable {x : Session} {dir : String}

/-- A session in another working directory. -/
def movedTo (x : Session) (directory : String) : Session := { x with shell := x.shell.movedTo directory }

theorem step_of_leads (h : x.tree.LeadsToDirectory (x.shell.path dir)) :
    x.step (.changeDirectory dir) = (.done, [], x.movedTo (x.shell.path dir)) := by
  rw [step_changeDirectory, Shell.changeDirectory_of_leads h]
  rfl

theorem step_of_not_leads (h : ¬ x.tree.LeadsToDirectory (x.shell.path dir)) :
    x.step (.changeDirectory dir) = (.failed (.noDirectory (x.shell.path dir)), [], x) := by
  rw [step_changeDirectory, Shell.changeDirectory_of_not_leads h]
  rfl

/-- The paths of the changes that are done when the directory is changed by each of the paths in order. -/
def taken (x : Session) (dirs : List String) : List String :=
  ((dirs.zip (x.stepAll (dirs.map .changeDirectory)).1).filter fun r => r.2.1.isDone).map Prod.fst

theorem taken_of_leads (h : x.tree.LeadsToDirectory (x.shell.path dir)) (dirs : List String) :
    x.taken (dir :: dirs) = dir :: (x.movedTo (x.shell.path dir)).taken dirs := by
  unfold taken
  rw [List.map_cons, stepAll, step_of_leads h]
  rfl

theorem taken_of_not_leads (h : ¬ x.tree.LeadsToDirectory (x.shell.path dir)) (dirs : List String) :
    x.taken (dir :: dirs) = x.taken dirs := by
  unfold taken
  rw [List.map_cons, stepAll, step_of_not_leads h]
  rfl

/-- A row of changes comes to the start, joined in order with the paths whose changes are
done, and to nothing else. -/
theorem stepAll_changeDirectory (x : Session) (dirs : List String) :
    (x.stepAll (dirs.map .changeDirectory)).2 = x.movedTo ((x.taken dirs).foldl Path.join x.shell.directory) := by
  induction dirs generalizing x with
  | nil => rfl
  | cons dir dirs ih =>
    rw [List.map_cons, stepAll]
    by_cases h : x.tree.LeadsToDirectory (x.shell.path dir)
    · rw [step_of_leads h, taken_of_leads h, List.foldl_cons]
      exact ih _
    · rw [step_of_not_leads h, taken_of_not_leads h]
      exact ih x

/-- The working directory of a session is there. -/
def IsInDirectory (x : Session) : Prop := x.tree.LeadsToDirectory x.shell.directory

theorem isInDirectory_step (h : x.IsInDirectory) (dir : String) :
    (x.step (.changeDirectory dir)).2.2.IsInDirectory := by
  by_cases hleads : x.tree.LeadsToDirectory (x.shell.path dir)
  · rw [step_of_leads hleads]
    exact hleads
  · rw [step_of_not_leads hleads]
    exact h

theorem isInDirectory_stepAll (h : x.IsInDirectory) (dirs : List String) :
    (x.stepAll (dirs.map .changeDirectory)).2.IsInDirectory := by
  induction dirs generalizing x with
  | nil => exact h
  | cons dir dirs ih => exact ih (isInDirectory_step h dir)

/-- A change that is done moves the session to where its path leads. -/
theorem eq_movedTo_of_done {y : Session} {events : List Event}
    (h : x.step (.changeDirectory dir) = (.done, events, y)) : y = x.movedTo (x.shell.path dir) := by
  by_cases hleads : x.tree.LeadsToDirectory (x.shell.path dir)
  · rw [step_of_leads hleads] at h
    cases h
    rfl
  · rw [step_of_not_leads hleads] at h
    cases h

/-- A change from where another path leads does as one by both paths, joined, but that a failure stays there. -/
theorem step_movedTo (x : Session) (a b : String) :
    ((x.movedTo (x.shell.path a)).step (.changeDirectory b)).1 = (x.step (.changeDirectory (Path.join a b))).1 ∧
      (((x.movedTo (x.shell.path a)).step (.changeDirectory b)).1 = .done →
        (x.movedTo (x.shell.path a)).step (.changeDirectory b) = x.step (.changeDirectory (Path.join a b))) := by
  have hpath : (x.movedTo (x.shell.path a)).shell.path b = x.shell.path (Path.join a b) :=
    Shell.path_movedTo x.shell a b
  by_cases h : x.tree.LeadsToDirectory (x.shell.path (Path.join a b))
  · have hstep : (x.movedTo (x.shell.path a)).step (.changeDirectory b) =
        x.step (.changeDirectory (Path.join a b)) := by
      rw [step_of_leads h, step_of_leads (by rw [hpath]; exact h), hpath]
      rfl
    exact ⟨congrArg Prod.fst hstep, fun _ => hstep⟩
  · rw [step_of_not_leads h, step_of_not_leads (by rw [hpath]; exact h), hpath]
    exact ⟨rfl, nofun⟩

/-- Changes of the directory in a session, whatever stands in its tree.

* One change is done exactly if its path, joined to the directory, leads to a directory, and then changes
  nothing but the directory. Any other fails with the joined path in its message and changes nothing.
* What leads to no directory: paths that are refused, paths to files and tools, links to
  either, and paths with a NUL.
* A row of changes comes to the start joined in order with the paths of those that are done.
* It stays in directories that are there.
* A change behind one that is done comes to what one change by both paths, joined, comes to: it is done for the
  same, or fails with the same message. -/
theorem changes_of_directory (x : Session) :
    (∀ dir,
      x.tree.LeadsToDirectory (x.shell.path dir) ∧
          x.step (.changeDirectory dir) = (.done, [], x.movedTo (x.shell.path dir)) ∨
        ¬ x.tree.LeadsToDirectory (x.shell.path dir) ∧
          x.step (.changeDirectory dir) = (.failed (.noDirectory (x.shell.path dir)), [], x)) ∧
    ((∀ path, ¬ x.tree.LeadsToDirectory path ↔
        (∃ why, x.tree.resolve [] path = .error why) ∨
          ∃ place, x.tree.resolve [] path = .ok place ∧
            ((∃ bytes, x.tree.lookup place = some (.file bytes)) ∨
              ∃ tool, x.tree.lookup place = some (.tool tool))) ∧
      (∀ path d name target, x.tree.resolveDirectory [] path = .ok d →
        x.tree.lookup (name :: d) = some (.link target) →
        x.tree.LeadsToDirectory (Path.join path name) →
        ∃ e, x.tree.follow linkLimit (Tree.origin target d) (Path.components target) = .ok e ∧
          x.tree.lookup e = some .directory) ∧
      ∀ dir, '\x00' ∈ dir.toList → x.tree.resolve [] (x.shell.path dir) = .error .nulInPath) ∧
    (∀ dirs : List String,
      (x.stepAll (dirs.map .changeDirectory)).2 = x.movedTo ((x.taken dirs).foldl Path.join x.shell.directory)) ∧
    (x.IsInDirectory → ∀ dirs : List String, (x.stepAll (dirs.map .changeDirectory)).2.IsInDirectory) ∧
    ∀ a b events y, x.step (.changeDirectory a) = (.done, events, y) →
      (y.step (.changeDirectory b)).1 = (x.step (.changeDirectory (Path.join a b))).1 ∧
        ((y.step (.changeDirectory b)).1 = .done →
          y.step (.changeDirectory b) = x.step (.changeDirectory (Path.join a b))) := by
  refine ⟨fun dir => ?_,
    ⟨fun path => Tree.not_leadsToDirectory_iff, fun path d name target hd hl => ?_, fun dir hnul => ?_⟩,
    stepAll_changeDirectory x, isInDirectory_stepAll, fun a b events y h => ?_⟩
  · by_cases h : x.tree.LeadsToDirectory (x.shell.path dir)
    · exact Or.inl ⟨h, step_of_leads h⟩
    · exact Or.inr ⟨h, step_of_not_leads h⟩
  · exact Tree.LeadsToDirectory.of_link hd hl
  · exact Tree.resolve_of_nul (Shell.nul_mem_path hnul)
  · rw [eq_movedTo_of_done h]
    exact step_movedTo x a b

/-! ## A row of changes that are done and that fail -/

/-- A workspace with a directory, a page and links, one to the directory, one to nowhere and one to itself. -/
def linkedTree : Tree :=
  ⟨[(["ws"], .directory), (["docs", "ws"], .directory), (["page", "ws"], .file .empty),
    (["in", "ws"], .link "docs"), (["gone", "ws"], .link "nowhere"), (["loop", "ws"], .link "loop")]⟩

/-- A session in the workspace. -/
def linkedSession : Session := ⟨⟨"/ws", [], none⟩, .default, ["ws"], linkedTree⟩

/-- Paths to a directory, some through a link, among paths to a file, to nothing, to links that lead
nowhere, and one with a NUL. -/
def linkedPaths : List String :=
  ["page", "gone", "loop", "in/\x00", "in", "../docs/", "typo", "..", "/ws/docs", ""]

/-- What is done comes to the last directory that is named from the root, with the slash
that the empty path adds. -/
theorem changes_of_directory_linked :
    linkedSession.taken linkedPaths = ["in", "../docs/", "..", "/ws/docs", ""] ∧
      (linkedSession.stepAll (linkedPaths.map .changeDirectory)).2 = linkedSession.movedTo "/ws/docs/" ∧
      (linkedSession.stepAll (linkedPaths.map .changeDirectory)).2.IsInDirectory := by
  obtain ⟨-, -, hrow, hthere, -⟩ := changes_of_directory linkedSession
  have htaken : linkedSession.taken linkedPaths = ["in", "../docs/", "..", "/ws/docs", ""] := by decide
  have hend : ["in", "../docs/", "..", "/ws/docs", ""].foldl Path.join linkedSession.shell.directory =
      "/ws/docs/" := by
    decide
  refine ⟨htaken, ?_, hthere ⟨["ws"], rfl, rfl⟩ linkedPaths⟩
  rw [hrow, htaken, hend]

end Session

end DocRunner
