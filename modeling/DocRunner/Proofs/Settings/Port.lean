import DocRunner.Proofs.CommandLine.Reading
import DocRunner.Proofs.Run.Arguments
import DocRunner.Proofs.Settings.Schema
import DocRunner.Proofs.Toml.Written

/-!
# The port of the preview

A variable, an option and the settings file can tell the port, and each is read in its own way.

* `Settings.badPort_iff` : digits in the variable, with blanks around them, are an obstacle exactly above 65535;
* `CommandLine.exists_read_iff` : so they are as the value of the option;
* `Layer.portText z`, `Layer.isSettingsText_portText_iff` : a settings file with nothing but the port
  `z`, and when it is one;
* `Settings.TellsPort s sh t config flags` : one of the three tells a run the port that is the value of `s`;
* `Settings.port_of_tellsPort` : then that is the port of the run;
* `Settings.port_decoders_agree` : all three take the same numbers for ports, and the
  preview passes on their digits.
-/

namespace DocRunner

/-! ## The variable -/

namespace Settings

variable {sh : Shell} {t : Tree} {config : Option String} {flags : Flags} {s : String}
  {pre post : List Char} {n : Nat}

theorem ofList_append_ne_empty (hs : Text.IsDigits s.toList) : String.ofList (pre ++ s.toList ++ post) ≠ "" := by
  intro hempty
  have hnil := String.toList_eq_nil_iff.2 hempty
  simp [hs.1] at hnil

/-- Digits between blanks keep settings from being settled exactly if their value is too large for a port. -/
theorem badPort_iff (hs : Text.IsDigits s.toList) (hn : Nat.ofDigitChars 10 s.toList 0 = n)
    (hpre : Text.AllBlank pre) (hpost : Text.AllBlank post)
    (hvalue : sh.vars.get? "PORT" = some (String.ofList (pre ++ s.toList ++ post))) :
    Obstacle.badPort.Holds sh t config ↔ ¬ n ≤ 65535 := by
  unfold Obstacle.Holds
  simp only [hvalue, Option.some.injEq, exists_eq_left', String.toList_ofList,
    Text.isPortText_append_iff hpre hs hpost, hn, ← not_exists, Text.exists_port_iff]
  exact and_iff_right (ofList_append_ne_empty hs)

end Settings

/-! ## The option -/

namespace CommandLine

variable {s : String} {n : Nat} {items : List Item} {words : List String}

/-- Digits mean a port as the value of the option exactly if their value is small enough for one. -/
theorem means_port_iff (hs : Text.IsDigits s.toList) (hn : Nat.ofDigitChars 10 s.toList 0 = n) :
    (∃ a, Parameter.port.Means s a) ↔ n ≤ 65535 := by
  have hmeans : ∀ port : UInt16, Parameter.port.Means s port ↔ n = port.toNat := by
    intro port
    rw [← hn]
    exact Text.isSigned_natCast_iff hs
  simp only [hmeans, Text.exists_port_iff]

/-- Words are read exactly if the items that they write are accepted. -/
theorem exists_read_iff_accepted (h : Spells items words) : (∃ cl, read words = .ok cl) ↔ Accepted items := by
  constructor
  · rintro ⟨cl, hcl⟩
    obtain ⟨items', hspells, haccepted, -⟩ := read_eq_ok_iff.1 hcl
    rwa [h.unique hspells]
  · intro haccepted
    obtain ⟨cl, hmeaning⟩ := haccepted.exists_commandLine
    exact ⟨cl, read_eq_ok_iff.2 ⟨items, h, haccepted, hmeaning⟩⟩

/-- No parameter is given twice, and all texts but one mean something. -/
structure AcceptedBut (item : Item) (items : List Item) : Prop where
  once : (items.filterMap Item.parameter?).Nodup
  means : ∀ p v, .option p v ∈ items → .option p v ≠ item → ∃ a, p.Means v a

/-- A command line with digits for the port is read exactly if nothing else is wrong with it and their
value is small enough. -/
theorem exists_read_iff (hs : Text.IsDigits s.toList) (hn : Nat.ofDigitChars 10 s.toList 0 = n)
    (h : Spells items words) (hitem : .option .port s ∈ items) :
    (∃ cl, read words = .ok cl) ↔ AcceptedBut (.option .port s) items ∧ n ≤ 65535 := by
  rw [exists_read_iff_accepted h, ← means_port_iff hs hn]
  constructor
  · intro haccepted
    exact ⟨⟨haccepted.once, fun p v hv _ => haccepted.means p v hv⟩, haccepted.means .port s hitem⟩
  · rintro ⟨⟨honce, hothers⟩, hport⟩
    refine ⟨honce, fun p v hv => ?_⟩
    by_cases heq : Item.option p v = .option .port s
    · cases heq
      exact hport
    · exact hothers p v hv heq

theorem exists_read_port_iff (hs : Text.IsDigits s.toList) (hn : Nat.ofDigitChars 10 s.toList 0 = n) :
    (∃ cl, read ["--port=" ++ s] = .ok cl) ↔ n ≤ 65535 := by
  have hspells : Spells [.option .port s] ["--port=" ++ s] := .attached .port s .nil
  have hbut : AcceptedBut (.option .port s) [.option .port s] :=
    ⟨List.nodup_singleton _, fun p v hv hne => absurd (List.mem_singleton.1 hv) hne⟩
  rw [exists_read_iff hs hn hspells List.mem_cons_self, and_iff_right hbut]

/-- The port that a command line has is the value of the digits that it gives for it. -/
theorem port_of_read {cl : CommandLine} (hs : Text.IsDigits s.toList) (hn : Nat.ofDigitChars 10 s.toList 0 = n)
    (h : Spells items words) (hitem : .option .port s ∈ items) (hread : read words = .ok cl) :
    ∃ port, cl.flags.port = some port ∧ n = port.toNat := by
  obtain ⟨items', hspells, haccepted, hmeaning⟩ := read_eq_ok_iff.1 hread
  cases h.unique hspells
  obtain ⟨port, hport⟩ := haccepted.means .port s hitem
  exact ⟨port, (hmeaning.get .port port).2 ⟨s, hitem, hport⟩, hn ▸ (Text.isSigned_natCast_iff hs).1 hport⟩

end CommandLine

/-! ## The settings file -/

theorem Setting.accepts_port_iff {z : Int} : Setting.port.Accepts (.integer z) ↔ 0 ≤ z ∧ z ≤ 65535 := by
  unfold Accepts
  rw [content?, Toml.Value.port?]
  split_ifs with h <;> simp [h]

/-- The text of a settings file with nothing but an integer for the port. -/
def Layer.portText (z : Int) : String := "[live]\nport = " ++ toString z ++ "\n"

namespace Toml

/-- The line of an assignment is read with its integer, unless that takes more than 64 bits. -/
theorem readLine_integer {name : String} {numeral : List Char} {z : Int} (hkey : IsKey name name.toList)
    (h : IsDecimal z numeral) :
    readLine (name.toList ++ (' ' :: '=' :: ' ' :: (numeral ++ ['\n']))) =
      ((int64? z).map fun n => .assignment ([], name) (.integer n)).map fun line => (line, []) := by
  have hblank : Blanks [' '] := by simp [Blanks, isSpace]
  have hbreak : ∀ c ∈ ['\n'].head?, isTokenChar c = false := by
    intro c hc
    cases hc
    decide
  have hread := readLine_of_isKey blanks_nil hkey hblank ([' '] ++ (numeral ++ ['\n']))
  rw [skipSpaces_append hblank, h.skipSpaces_eq, h.readValue_eq hbreak] at hread
  refine hread.trans ?_
  cases int64? z with
  | none => rfl
  | some n => rfl

/-- A line up to the end of the text is the last one, if it is one at all. -/
theorem readLines_of_last {cs : List Char} {line? : Option Line} {n : Nat} (hne : cs ≠ []) (hn : cs.length ≤ n)
    (h : readLine cs = line?.map fun line => (line, [])) : readLines n cs = line?.map fun line => [line] := by
  obtain ⟨n, rfl⟩ :=
    Nat.exists_eq_succ_of_ne_zero (Nat.ne_of_gt (Nat.lt_of_lt_of_le (List.length_pos_of_ne_nil hne) hn))
  rw [readLines, h]
  · cases line? with
    | none => rfl
    | some line =>
      dsimp only [Option.map_some]
      rw [readLines, Option.map_some]
  · exact hne

/-- The file is read, unless the integer takes more than 64 bits. -/
theorem read?_portText (z : Int) :
    read? (Layer.portText z) = (int64? z).map fun n => [("live", .table [("port", .integer n)])] := by
  have hlive : IsKey "live" "live".toList := .bare (by decide) (List.all_eq_true.1 rfl)
  have hport : IsKey "port" "port".toList := .bare (by decide) (List.all_eq_true.1 rfl)
  have hsecond := readLine_integer hport (isDecimal_toString z)
  generalize hline : "port".toList ++ (' ' :: '=' :: ' ' :: ((toString z).toList ++ ['\n'])) = line at hsecond
  have htext : (Layer.portText z).toList = '[' :: ("live".toList ++ [']']) ++ '\n' :: line := by
    simp [← hline, Layer.portText, String.toList_append]
  have hmark : dropMark (Layer.portText z).toList = (Layer.portText z).toList := by
    rw [htext]
    rfl
  have hfirst : readLine ('[' :: ("live".toList ++ [']']) ++ '\n' :: line) =
      some (.table ([], "live"), line) := by
    have hread := readLine_table blanks_nil blanks_nil hlive blanks_nil (.blanks blanks_nil) (.lineFeed line)
    simpa using hread
  obtain ⟨m, hm, hlines⟩ := readLines_cons (by simp) (.lineFeed line) hfirst (Nat.le_refl _)
  have hrest := readLines_of_last (by simp [← hline]) hm hsecond
  rw [read?, hmark, htext, hlines, hrest]
  cases int64? z with
  | none => rfl
  | some n =>
    have hbuild := @build_linesOf [("live", [("port", .integer n)])] [] (by simp) (by simp) []
    have hvalues := entriesToValues_tables [("live", [("port", .integer n)])]
    refine Eq.trans (congrArg (Option.map entriesToValues) hbuild) ?_
    exact congrArg some hvalues

end Toml

namespace Layer

variable {z : Int} {text : String} {entries : List (String × Toml.Value)} {l : Layer}

theorem read?_portText_of_bounds (hz : 0 ≤ z ∧ z ≤ 65535) :
    Toml.read? (portText z) = some [("live", .table [("port", .integer z)])] := by
  have hlt : z < Text.int64Bound := by
    simp only [Text.int64Bound]
    omega
  rw [Toml.read?_portText, Toml.int64?_of_nonneg hz.1 hlt, Option.map_some]

/-- No file gives a number for the port that is none. -/
theorem IsSettingsText.port_bounds (h : IsSettingsText text) (hread : Toml.read? text = some entries)
    (hport : (.port, .integer z) ∈ Document.given entries) : 0 ≤ z ∧ z ≤ 65535 := by
  obtain ⟨entries', hread', hfits⟩ := h
  rw [hread] at hread'
  cases hread'
  exact Setting.accepts_port_iff.1 (hfits.accepts hport)

/-- The integers that a file may give for the port. -/
theorem isSettingsText_portText_iff : IsSettingsText (portText z) ↔ 0 ≤ z ∧ z ≤ 65535 := by
  constructor
  · rintro ⟨entries, hread, hfits⟩
    have hentries := hread
    rw [Toml.read?_portText] at hentries
    obtain ⟨n, hn, rfl⟩ := Option.map_eq_some_iff.1 hentries
    obtain rfl : n = z := Toml.eq_of_int64? hn
    exact IsSettingsText.port_bounds ⟨_, hread, hfits⟩ hread List.mem_cons_self
  · intro hz
    refine ⟨_, read?_portText_of_bounds hz, ?_⟩
    refine List.forall_mem_singleton.2 ⟨.live, by decide, rfl, List.forall_mem_singleton.2 ?_⟩
    exact ⟨.port, by decide, rfl, Setting.accepts_port_iff.2 hz⟩

/-- A file that is taken gives the port that it names. -/
theorem port_of_ofFile? (h : ofFile? text = .ok l) (hread : Toml.read? text = some entries)
    (hport : (.port, .integer z) ∈ Document.given entries) : ∃ port, l.port = some port ∧ z = port.toNat := by
  obtain ⟨entries', hread', hget⟩ := ofFile?_get h
  rw [hread] at hread'
  cases hread'
  have hbounds : 0 ≤ z ∧ z ≤ 65535 := (ofFile?_succeeds_iff.1 ⟨l, h⟩).port_bounds hread hport
  refine ⟨UInt16.ofNat z.toNat, ?_, ?_⟩
  · have hcontent := (hget .port).trans (Document.content?_of_mem (Toml.read?_keyed hread) hport)
    exact hcontent.trans (if_pos hbounds)
  · rw [UInt16.toNat_ofNat']
    omega

end Layer

/-! ## The port of a run -/

namespace Settings

open Obstacle

variable {sh : Shell} {t : Tree} {config : Option String} {flags : Flags} {s text : String} {n : Nat}
  {x : Settings} {entries : List (String × Toml.Value)}

/-- A run with a settings file settles its settings exactly if both the text of the file and
the variable allow it. -/
theorem exists_resolve_iff_of_text (htext : t.readText [] (filePath sh config) = .ok text) :
    (∃ x, (resolve sh t config flags).result = .ok x) ↔
      ¬ badPort.Holds sh t config ∧ Layer.IsSettingsText text := by
  obtain ⟨hmissing, hunreadable⟩ := not_holds_of_text htext
  have hsettings : noSettings.Holds sh t config ↔ ¬ Layer.IsSettingsText text := by
    unfold Holds
    simp only [htext, Except.ok.injEq, exists_eq_left']
  rw [exists_resolve_iff, ← not_not (a := Layer.IsSettingsText text), ← hsettings]
  constructor
  · exact fun hclear => ⟨hclear badPort, hclear noSettings⟩
  · rintro ⟨hport, hno⟩ o
    cases o <;> assumption

/-- The layer of a run's settings file is that of its text. -/
theorem ofFile?_of_fileLayer {file : Layer} (htext : t.readText [] (filePath sh config) = .ok text)
    (hfile : fileLayer sh t config = .ok file) : Layer.ofFile? text = .ok file := by
  rw [fileLayer_of_text htext, layerOf] at hfile
  cases hlayer : Layer.ofFile? text with
  | error why =>
    rw [hlayer] at hfile
    cases hfile
  | ok l =>
    rw [hlayer] at hfile
    cases hfile
    rfl

/-- Where neither variable nor option say anything, the port is the one that the file names. -/
theorem port_of_file {z : Int} (htext : t.readText [] (filePath sh config) = .ok text)
    (hread : Toml.read? text = some entries) (hport : (.port, .integer z) ∈ Document.given entries)
    (hvalue : (sh.vars.get? "PORT").filter (· ≠ "") = none) (hflag : flags.port = none)
    (h : (resolve sh t config flags).result = .ok x) : x.port.toNat = z := by
  obtain ⟨file, l, hfile, -, -⟩ := resolve_eq_ok.1 h
  obtain ⟨port, hgiven, rfl⟩ := Layer.port_of_ofFile? (ofFile?_of_fileLayer htext hfile) hread hport
  have hget : x.port = (sources flags sh.vars file .port).value (default.get .port) := resolve_get hfile h .port
  rw [hget, sources, hflag, hvalue, hgiven]
  rfl

/-- One of the three tells a run the port that is the value of some digits: the variable, where no option does;
the option; or the file, by the number, where no option does and the variable is empty or not set. -/
inductive TellsPort (s : String) (sh : Shell) (t : Tree) (config : Option String) (flags : Flags) : Prop
  | byVariable {pre post : List Char} (hpre : Text.AllBlank pre) (hpost : Text.AllBlank post)
      (hvalue : sh.vars.get? "PORT" = some (String.ofList (pre ++ s.toList ++ post))) (hflag : flags.port = none)
  | byOption {words : List String} {items : List CommandLine.Item} {cl : CommandLine}
      (hspells : CommandLine.Spells items words) (hitem : .option .port s ∈ items)
      (hread : CommandLine.read words = .ok cl) (hflags : flags = cl.flags)
  | byFile {text : String} {entries : List (String × Toml.Value)}
      (htext : t.readText [] (filePath sh config) = .ok text) (hread : Toml.read? text = some entries)
      (hport : (.port, .integer (Nat.ofDigitChars 10 s.toList 0)) ∈ Document.given entries)
      (hvalue : (sh.vars.get? "PORT").filter (· ≠ "") = none) (hflag : flags.port = none)

/-- What tells the port is what the run takes for it. -/
theorem port_of_tellsPort (hs : Text.IsDigits s.toList) (hn : Nat.ofDigitChars 10 s.toList 0 = n)
    (htells : TellsPort s sh t config flags) (h : (resolve sh t config flags).result = .ok x) :
    x.port.toNat = n := by
  obtain ⟨file, l, hfile, hl, -⟩ := resolve_eq_ok.1 h
  have hget : x.port = (sources flags sh.vars file .port).value (default.get .port) := resolve_get hfile h .port
  cases htells with
  | @byVariable pre post hpre hpost hvalue hflag =>
    have hne : String.ofList (pre ++ s.toList ++ post) ≠ "" := ofList_append_ne_empty hs
    obtain ⟨port, hread⟩ := port_of_ofVariables? hl _ hvalue hne
    rw [hget, sources, hflag, hvalue, Option.filter_some, if_pos (decide_eq_true hne), Option.bind_some, hread]
    rw [Text.readPort?_trimChars_eq_some_iff, String.toList_ofList, Text.isPortText_append_iff hpre hs hpost,
      hn] at hread
    exact hread.symm
  | @byOption words items cl hspells hitem hread hflags =>
    obtain ⟨port, hport, rfl⟩ := CommandLine.port_of_read hs hn hspells hitem hread
    rw [hget, sources, hflags, hport]
    rfl
  | byFile htext hread hport hvalue hflag =>
      exact Int.natCast_inj.1 (hn ▸ port_of_file htext hread hport hvalue hflag h)

/-- The preview passes on the decimal digits of the port as its last argument. -/
theorem passes_port (sh : Shell) (x : Settings) :
    Target.Passes sh x .livehtml x.liveServer
      (x.buildArguments "html" ++ [x.sourceDir, x.htmlDir] ++ ["--port", toString x.port.toNat]) := by
  refine Target.passes_of_command ?_
  simp [Target.command?, liveCommand]

/-- Digits, however many, are a port in the variable and in the option for the same values, those up to 65535,
and so is an integer in the settings file from 0 on.

* In the variable, blanks may stand around them. Settling succeeds exactly if the value is a port and
  nothing else is in the way.
* A command line with them is read exactly if the value is a port and nothing else is wrong with it.
* A file that gives an integer as port and nothing else is taken exactly if it is one, and the port is
  that integer where neither variable nor option say anything. No file that gives any other integer is
  taken, whatever else it holds.
* Whichever of the three tells a run the port, it is the value, and the preview passes it on by its digits
  without leading zeros. -/
theorem port_decoders_agree (sh : Shell) (t : Tree) (config : Option String) (flags : Flags)
    (hs : Text.IsDigits s.toList) (hn : Nat.ofDigitChars 10 s.toList 0 = n) :
    (∀ pre post, Text.AllBlank pre → Text.AllBlank post →
      sh.vars.get? "PORT" = some (String.ofList (pre ++ s.toList ++ post)) →
      ((∃ x, (resolve sh t config flags).result = .ok x) ↔
        (∀ o, o ≠ badPort → ¬ Holds sh t config o) ∧ n ≤ 65535)) ∧
    ((∃ cl, CommandLine.read ["--port=" ++ s] = .ok cl) ↔ n ≤ 65535) ∧
    (∀ items words, CommandLine.Spells items words → .option .port s ∈ items →
      ((∃ cl, CommandLine.read words = .ok cl) ↔
        CommandLine.AcceptedBut (.option .port s) items ∧ n ≤ 65535)) ∧
    (∀ z, t.readText [] (filePath sh config) = .ok (Layer.portText z) →
      ((∃ x, (resolve sh t config flags).result = .ok x) ↔
        ¬ badPort.Holds sh t config ∧ 0 ≤ z ∧ z ≤ 65535) ∧
        ((sh.vars.get? "PORT").filter (· ≠ "") = none → flags.port = none →
          ∀ x, (resolve sh t config flags).result = .ok x → x.port.toNat = z)) ∧
    (∀ text entries z, t.readText [] (filePath sh config) = .ok text → Toml.read? text = some entries →
      (.port, .integer z) ∈ Document.given entries → (∃ x, (resolve sh t config flags).result = .ok x) →
      0 ≤ z ∧ z ≤ 65535) ∧
    (∀ x, TellsPort s sh t config flags → (resolve sh t config flags).result = .ok x →
      x.port.toNat = n ∧
        ∀ sh', Target.Passes sh' x .livehtml x.liveServer
          (x.buildArguments "html" ++ [x.sourceDir, x.htmlDir] ++ ["--port", toString n])) ∧
    Json.IsWhole (toString n).toList ∧ Nat.ofDigitChars 10 (toString n).toList 0 = n := by
  have hdigits : (toString n).toList = Nat.toDigits 10 n := Nat.toList_repr
  refine ⟨fun pre post hpre hpost hvalue => ?_, CommandLine.exists_read_port_iff hs hn,
    fun items words hspells hitem => CommandLine.exists_read_iff hs hn hspells hitem,
    fun z htext => ⟨?_, fun hvalue hflag x hx => ?_⟩,
    fun text entries z htext hread hport hx => ?_, fun x htells hx => ?_, ?_, ?_⟩
  · have hport : badPort.Holds sh t config ↔ ¬ n ≤ 65535 := badPort_iff hs hn hpre hpost hvalue
    rw [exists_resolve_iff, ← not_not (a := n ≤ 65535), ← hport]
    constructor
    · exact fun hclear => ⟨fun o _ => hclear o, hclear badPort⟩
    · rintro ⟨hclear, hno⟩ o
      by_cases ho : o = badPort
      · rwa [ho]
      · exact hclear o ho
  · rw [exists_resolve_iff_of_text htext, Layer.isSettingsText_portText_iff]
  · have hz := ((exists_resolve_iff_of_text htext).1 ⟨x, hx⟩).2
    rw [Layer.isSettingsText_portText_iff] at hz
    exact port_of_file htext (Layer.read?_portText_of_bounds hz) List.mem_cons_self hvalue hflag hx
  · exact ((exists_resolve_iff_of_text htext).1 hx).2.port_bounds hread hport
  · rw [← port_of_tellsPort hs hn htells hx]
    exact ⟨rfl, fun sh' => passes_port sh' x⟩
  · exact hdigits ▸ Json.isWhole_toDigits n
  · exact hdigits ▸ Nat.ofDigitChars_toDigits (by decide) (by decide)

/-! ## A sample -/

/-- A workspace without a settings file. -/
def previewTree : Tree := ⟨[(["ws"], .directory)]⟩

/-- A shell with a variable that names a port with zeros in front and blanks around. -/
def previewShell : Shell := ⟨"/ws", [("PORT", "\u00a00008080\u2003\n")], none⟩

/-- The port of the sample is 8080, by the variable as by the option, and without the zeros
when it is passed on. -/
theorem port_decoders_agree_sample :
    (∃ cl, CommandLine.read ["--port=" ++ "0008080"] = .ok cl) ∧
      ∃ x, (resolve previewShell previewTree none {}).result = .ok x ∧ x.port.toNat = 8080 ∧
        Target.Passes previewShell x .livehtml x.liveServer
          (x.buildArguments "html" ++ [x.sourceDir, x.htmlDir] ++ ["--port", toString 8080]) := by
  have hs : Text.IsDigits "0008080".toList := ⟨by decide, List.all_eq_true.1 rfl⟩
  have hpre : Text.AllBlank ['\u00a0'] := List.forall_mem_singleton.2 (by decide)
  have hpost : Text.AllBlank ['\u2003', '\n'] := List.all_eq_true.1 rfl
  have hmissing : ∀ place, previewTree.resolve [] (filePath previewShell none) ≠ .ok place := by
    have hnone : previewTree.resolve [] (filePath previewShell none) = .error .notFound := rfl
    rw [hnone]
    exact nofun
  have hclear : ∀ o, o ≠ badPort → ¬ Holds previewShell previewTree none o := by
    intro o ho
    cases o with
    | missingFile => exact fun h => nomatch h.1
    | unreadableFile => exact (not_holds_of_unresolved hmissing).1
    | noSettings => exact (not_holds_of_unresolved hmissing).2
    | badPort => exact absurd rfl ho
  obtain ⟨hvariable, hoption, -, -, -, htold, -⟩ :=
    port_decoders_agree previewShell previewTree none {} hs (show _ = 8080 from rfl)
  obtain ⟨x, hx⟩ := (hvariable _ _ hpre hpost rfl).2 ⟨hclear, by decide⟩
  obtain ⟨hport, hpasses⟩ := htold x (.byVariable hpre hpost rfl rfl) hx
  exact ⟨hoption.2 (by decide), x, hx, hport, hpasses previewShell⟩

end Settings

end DocRunner
