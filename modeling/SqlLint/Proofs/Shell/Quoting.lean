import SqlLint.Shell.Quote
import SqlLint.Shell.Word

/-!
# Quoted arguments are read back

The shell reads an argument that `Shell.quote` wrote as one word that spells the argument, and in
which every letter stands for itself (`exists_scan_quote`).  So a command line gives the program
and the arguments that it was made of, whatever characters these have (`ShellSetting.runs_command`).
-/

namespace SqlLint

open Text

namespace Shell

/-! ## Letters of one quoting -/

/-- The letters of a text, all written in one way. -/
def lettersOf (quoting : Quoting) (cs : List Char) : List Letter := cs.map (⟨·, quoting⟩)

/-- The text that letters spell. -/
def spelling (letters : List Letter) : String := String.ofList (letters.map (·.char))

/-- Every letter stands for itself. -/
def IsLiteral (letters : List Letter) : Prop := ∀ l ∈ letters, l.isLiteral = true

@[simp] theorem map_char_lettersOf (quoting : Quoting) (cs : List Char) :
    (lettersOf quoting cs).map (·.char) = cs := by
  simp [lettersOf, Function.comp_def]

theorem spelling_lettersOf (quoting : Quoting) (s : String) :
    spelling (lettersOf quoting s.toList) = s := by
  rw [spelling, map_char_lettersOf, String.ofList_toList]

theorem literal?_of_isLiteral {letters : List Letter} (h : IsLiteral letters) :
    literal? letters = some (spelling letters) :=
  if_pos (List.all_eq_true.2 h)

theorem isLiteral_strong (cs : List Char) : IsLiteral (lettersOf .strong cs) := by
  intro l hl
  obtain ⟨c, -, rfl⟩ := List.mem_map.1 hl
  rfl

/-! ## Words without quotes -/

/-- A word that needs no quotes. -/
def IsPlainWord (word : String) : Prop := word ≠ "" ∧ ∀ c ∈ word.toList, IsOrdinary c

theorem isPlain_eq (c : Char) :
    isPlain c = (c.isAlphanum || ['-', '_', '.', '/', '=', ':', ',', '@', '%', '+'].contains c) := by
  rw [isPlain, String.contains_char_eq]
  simp

theorem isOrdinary_of_isPlain {c : Char} (h : isPlain c = true) : IsOrdinary c := by
  have apart (cs : List Char) (hs : cs.any isPlain = false) : ∀ d ∈ cs, c ≠ d := by
    rintro d hd rfl
    exact Bool.false_ne_true (hs.symm.trans (List.any_eq_true.2 ⟨c, hd, h⟩))
  have mark := apart [' ', '\t', '\\', '\'', '"', '\x60']
    (by simp only [isPlain_eq, List.any_cons, List.any_nil]; decide)
  have operator := apart ['\n', ';', '&', '|', '(', ')', '<', '>']
    (by simp only [isPlain_eq, List.any_cons, List.any_nil]; decide)
  have special := apart ['$', '*', '?', '[', ']', '\x7b', '\x7d', '~', '!', '#']
    (by simp only [isPlain_eq, List.any_cons, List.any_nil]; decide)
  have grave : c.toNat ≠ 0x60 := fun e => mark '\x60' (by simp) (Char.toNat_inj.1 e)
  refine ⟨?_, ?_, mark _ (by simp), mark _ (by simp), mark _ (by simp), ?_⟩
  · rw [isBlank, beq_false_of_ne (mark ' ' (by simp)), beq_false_of_ne (mark '\t' (by simp))]
    rfl
  · rw [isOperator, String.contains_char_eq, decide_eq_false_iff_not]
    exact fun mem => operator c (by simpa using mem) rfl
  · rw [isSpecial, String.contains_char_eq, beq_false_of_ne grave, Bool.or_false,
      decide_eq_false_iff_not]
    exact fun mem => special c (by simpa using mem) rfl

theorem isLiteral_bare {cs : List Char} (h : ∀ c ∈ cs, IsOrdinary c) :
    IsLiteral (lettersOf .bare cs) := by
  intro l hl
  obtain ⟨c, hc, rfl⟩ := List.mem_map.1 hl
  simp [Letter.isLiteral, (h c hc).2.2.2.2.2]

/-- Characters that mean nothing to the shell go on with a word. -/
theorem scanFrom_bare {cs : List Char} (h : ∀ c ∈ cs, IsOrdinary c) (letters : List Letter)
    (rest : List Char) : scanFrom .bare (some letters) (cs ++ rest) =
      scanFrom .bare (some (letters ++ lettersOf .bare cs)) rest := by
  induction cs generalizing letters with
  | nil => simp [lettersOf]
  | cons c cs ih =>
    obtain ⟨hc, hcs⟩ := List.forall_mem_cons.1 h
    rw [List.cons_append, scanFrom_ordinary hc, extend, ih hcs]
    simp [lettersOf]

/-- A word without quotes is read as its letters. -/
theorem scanFrom_plainWord {word : String} (h : IsPlainWord word) (rest : List Char) :
    scanFrom .bare none (word.toList ++ rest) =
      scanFrom .bare (some (lettersOf .bare word.toList)) rest := by
  obtain ⟨filled, ordinary⟩ := h
  cases hw : word.toList with
  | nil => exact absurd (String.toList_eq_nil_iff.1 hw) filled
  | cons c cs =>
    rw [hw] at ordinary
    obtain ⟨hc, hcs⟩ := List.forall_mem_cons.1 ordinary
    rw [List.cons_append, scanFrom_ordinary hc, extend, scanFrom_bare hcs]
    rfl

/-! ## Words between apostrophes -/

/-- Inside the apostrophes every character is read as itself, up to the closing one. -/
theorem scanFrom_wrapped (cs : List Char) (letters : List Letter) (rest : List Char) :
    scanFrom .strong (some letters)
        (cs.flatMap (fun c => if c = '\'' then "'\\''".toList else [c]) ++ '\'' :: rest) =
      scanFrom .bare (some (letters ++ lettersOf .strong cs)) rest := by
  induction cs generalizing letters with
  | nil => simp [scanFrom, lettersOf]
  | cons c cs ih =>
    have next := ih (letters ++ [⟨c, .strong⟩])
    rw [List.append_assoc] at next
    rw [List.flatMap_cons, List.append_assoc, lettersOf, List.map_cons]
    refine Eq.trans ?_ next
    by_cases hc : c = '\''
    · -- The quotation is closed, an escaped apostrophe stands outside, and it is opened again.
      subst hc
      simp [scanFrom, isBlank, isOperator, extend]
    · simp [scanFrom, hc, extend]

/-! ## Arguments -/

/-- An argument as it was quoted is read as one word, which spells the argument. -/
theorem exists_scan_quote (argument : String) :
    ∃ letters, IsLiteral letters ∧ spelling letters = argument ∧
      ∀ rest, scanFrom .bare none ((quote argument).toList ++ rest) =
        scanFrom .bare (some letters) rest := by
  unfold quote
  dsimp only
  split
  · next plain =>
    obtain ⟨filled, plain⟩ := plain
    have ordinary : ∀ c ∈ argument.toList, IsOrdinary c :=
      fun c hc => isOrdinary_of_isPlain (List.all_eq_true.1 plain c hc)
    refine ⟨_, isLiteral_bare ordinary, spelling_lettersOf .bare argument, fun rest => ?_⟩
    exact scanFrom_plainWord ⟨fun empty => filled (by rw [empty]; rfl), ordinary⟩ rest
  · refine ⟨_, isLiteral_strong _, spelling_lettersOf .strong argument, fun rest => ?_⟩
    have opened := scanFrom_wrapped argument.toList [] rest
    rw [List.nil_append] at opened
    rw [String.toList_ofList, wrapped, List.append_assoc, List.cons_append, ← opened]
    simp [scanFrom, isBlank, isOperator]

/-- The shell reads a quoted argument back. -/
theorem words?_quote (argument : String) : words? (quote argument) = some [argument] := by
  obtain ⟨letters, literal, rfl, read⟩ := exists_scan_quote argument
  have scanned := read []
  rw [List.append_nil] at scanned
  simp [words?, scan, scanned, scanFrom, emit, literal?_of_isLiteral literal]

/-- Blanks part the word before them from the arguments that follow. -/
theorem exists_scan_arguments (arguments : List String) (first : List Letter) :
    ∃ words, (∀ word ∈ words, IsLiteral word) ∧ words.map spelling = arguments ∧
      scanFrom .bare (some first)
          (arguments.flatMap fun argument => ' ' :: (quote argument).toList) =
        some ((first :: words).map .word) := by
  induction arguments generalizing first with
  | nil => exact ⟨[], by simp, rfl, rfl⟩
  | cons argument arguments ih =>
    obtain ⟨letters, literal, spelled, read⟩ := exists_scan_quote argument
    obtain ⟨words, literals, spellings, rest⟩ := ih letters
    refine ⟨letters :: words, List.forall_mem_cons.2 ⟨literal, literals⟩, ?_, ?_⟩
    · rw [List.map_cons, spelled, spellings]
    · have blank : isBlank ' ' = true := rfl
      rw [List.flatMap_cons, List.cons_append, scanFrom, if_pos blank, read, rest]
      rfl

theorem toList_line (program : String) (arguments : List String) :
    (line program arguments).toList =
      program.toList ++ arguments.flatMap fun argument => ' ' :: (quote argument).toList := by
  rw [line, joinStrings, String.toList_intercalate, List.map_cons]
  generalize program.toList = first
  induction arguments generalizing first with
  | nil => simp
  | cons argument arguments ih =>
    have blank : " ".toList = [' '] := rfl
    rw [List.map_cons, List.map_cons, List.intercalate_cons_cons, ih, List.flatMap_cons, blank,
      List.append_assoc]
    rfl

/-- A command line is read as the program and the arguments. -/
theorem exists_scan_line {program : String} (plain : IsPlainWord program)
    (arguments : List String) :
    ∃ words : List (List Letter), scan (line program arguments) = some (words.map .word) ∧
      words.map spelling = program :: arguments ∧ ∀ word ∈ words, IsLiteral word := by
  obtain ⟨words, literals, spellings, read⟩ :=
    exists_scan_arguments arguments (lettersOf .bare program.toList)
  refine ⟨lettersOf .bare program.toList :: words, ?_, ?_, ?_⟩
  · rw [scan, toList_line, scanFrom_plainWord plain, read]
  · rw [List.map_cons, spelling_lettersOf, spellings]
  · exact List.forall_mem_cons.2 ⟨isLiteral_bare plain.2, literals⟩

theorem words?_of_scan {line : String} {words : List (List Letter)}
    (read : scan line = some (words.map .word)) (literals : ∀ word ∈ words, IsLiteral word) :
    words? line = some (words.map spelling) := by
  have each : words.mapM literal? = some (words.map spelling) := by
    clear read
    induction words with
    | nil => rfl
    | cons word words ih =>
      obtain ⟨literal, literals⟩ := List.forall_mem_cons.1 literals
      simp [List.mapM_cons, literal?_of_isLiteral literal, ih literals]
  rw [words?, read, ← each]
  exact List.mapM_map

end Shell

/-- The program is given the arguments as they are.  Directly they are those of the command; a shell
reads them back from its command line, in which no letter of them means anything else to it.  Any
text that was quoted is read back. -/
theorem ShellSetting.runs_command (s : ShellSetting) {program : String}
    (plain : Shell.IsPlainWord program) (arguments : List String) :
    (match s.shell? with
      | none => s.command program arguments = (program, arguments)
      | some shell => ∃ line, s.command program arguments = (shell, ["-c", line]) ∧
          Shell.words? line = some (program :: arguments) ∧
          ∃ words : List (List Shell.Letter), Shell.scan line = some (words.map .word) ∧
            ∀ word ∈ words, Shell.IsLiteral word) ∧
    ∀ text, Shell.words? (Shell.quote text) = some [text] := by
  refine ⟨?_, Shell.words?_quote⟩
  unfold command
  cases s.shell? with
  | none => rfl
  | some shell =>
    obtain ⟨words, read, spellings, literals⟩ := Shell.exists_scan_line plain arguments
    refine ⟨Shell.line program arguments, rfl, ?_, words, read, literals⟩
    rw [Shell.words?_of_scan read literals, spellings]

/-- An argument with an apostrophe, with signs of the shell and with a line feed, and an empty one. -/
def awkwardArguments : List String := ["lint", "it's $HOME; *\n", ""]

theorem ShellSetting.runs_command_awkward :
    Shell.IsPlainWord "sqlfluff" ∧
    ∃ line, (ShellSetting.enabled true).command "sqlfluff" awkwardArguments =
        ("/bin/sh", ["-c", line]) ∧
      Shell.words? line = some ["sqlfluff", "lint", "it's $HOME; *\n", ""] := by
  have plain : Shell.IsPlainWord "sqlfluff" := by
    have plain : ∀ c ∈ "sqlfluff".toList, Shell.isPlain c = true := by simp [Shell.isPlain_eq]
    exact ⟨by decide, fun c hc => Shell.isOrdinary_of_isPlain (plain c hc)⟩
  obtain ⟨line, command, read, -⟩ := (runs_command (.enabled true) plain awkwardArguments).1
  exact ⟨plain, line, command, read⟩

end SqlLint
