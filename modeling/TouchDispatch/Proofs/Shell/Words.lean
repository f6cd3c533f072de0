/-
**A shell reads the component of an app as one word, whatever it contains.**

The component comes from a setting that anybody may post, and the command line that it is put into
is run with all rights:

* `Shell.Glyph`, `Shell.Word`: a word of a command line, and which of its characters are quoted;
* `Shell.readWords`, `Shell.words?`: how a shell splits a line by its blanks, single quotes and
  backslashes. A line in which a character with a meaning of its own is left unquoted is refused, so
  what is read is nothing but words;
* `words?_leads`, `words?_quote`: bare words with blanks between them are read as they are, and a
  quoted text is read as one word, each character quoted;
* `run_ran`: a command line reaches at most two shells, and each as it is;
* `component_is_one_word`: **the line that starts an app is read as six words, the last of which is
  the component, character for character and with every character quoted.**
-/

import TouchDispatch.Shell.Services

namespace TouchDispatch

namespace Shell

/-! ### How a shell reads a line -/

/-- A character of a word, and whether it was quoted: between single quotes or after a backslash. -/
structure Glyph where
  char : Char
  quoted : Bool
deriving DecidableEq, Repr

/-- A word of a command line. It may be empty, if it was quoted. -/
abbrev Word := List Glyph

namespace Word

/-- A text without any quotes. -/
def bare (text : List Char) : Word :=
  text.map fun c => ⟨c, false⟩

/-- A text with every character quoted. -/
def quoted (text : List Char) : Word :=
  text.map fun c => ⟨c, true⟩

end Word

/-- The blanks that divide words. A line feed is no blank: it ends the command. -/
def isDivider (c : Char) : Bool :=
  c == ' ' || c == '\t'

/-- The characters that mean something to a shell when they are not quoted, quotes, backslashes and
dividers aside. -/
def specials : List Char := "|&;<>()$`\"*?[#~=%\n".toList

/-- A character that stands for itself without being quoted. -/
def isPlain (c : Char) : Bool :=
  !(c == '\'' || c == '\\' || isDivider c || specials.contains c)

/-- How the next character is taken. -/
inductive Mode where
  | plain
  /-- Between single quotes. -/
  | quoted
  /-- After a backslash. -/
  | escaped

/-- The words of a line from some place on, where `word` is what has been read of a word there, if
one has begun. There are none if a quote is left open, if a backslash stands at the end, or if a
special character is not quoted. -/
def readWords : Mode → Option Word → List Char → Option (List Word)
  | .plain, word, [] => some word.toList
  | .quoted, _, [] | .escaped, _, [] => none
  | .plain, word, c :: rest =>
    if c = '\'' then readWords .quoted (some (word.getD [])) rest
    else if c = '\\' then readWords .escaped word rest
    else if isDivider c then (readWords .plain none rest).map (word.toList ++ ·)
    else if specials.contains c then none
    else readWords .plain (some (word.getD [] ++ [⟨c, false⟩])) rest
  | .quoted, word, c :: rest =>
    if c = '\'' then readWords .plain word rest
    else readWords .quoted (some (word.getD [] ++ [⟨c, true⟩])) rest
  | .escaped, word, c :: rest =>
    -- A line feed after a backslash only continues the line.
    if c = '\n' then readWords .plain word rest
    else readWords .plain (some (word.getD [] ++ [⟨c, true⟩])) rest

/-- The words that a shell reads a line as. -/
def words? (line : List Char) : Option (List Word) :=
  readWords .plain none line

/-! ### Bare words -/

theorem readWords_plain {c : Char} (plain : isPlain c = true) (word : Option Word)
    (rest : List Char) :
    readWords .plain word (c :: rest) =
      readWords .plain (some (word.getD [] ++ [⟨c, false⟩])) rest := by
  unfold isPlain at plain
  simp only [Bool.not_eq_true', Bool.or_eq_false_iff, beq_eq_false_iff_ne] at plain
  obtain ⟨⟨⟨quote, backslash⟩, divider⟩, special⟩ := plain
  rw [readWords, if_neg quote, if_neg backslash, divider, if_neg Bool.false_ne_true, special,
    if_neg Bool.false_ne_true]

theorem readWords_bare {text : List Char} (plain : ∀ c ∈ text, isPlain c = true) (word : Word)
    (rest : List Char) :
    readWords .plain (some word) (text ++ rest) =
      readWords .plain (some (word ++ Word.bare text)) rest := by
  induction text generalizing word with
  | nil => rw [Word.bare, List.map_nil, List.append_nil, List.nil_append]
  | cons c text ih =>
    obtain ⟨first, others⟩ := List.forall_mem_cons.mp plain
    rw [List.cons_append, readWords_plain first, ih others, Option.getD_some, List.append_assoc]
    rfl

theorem words?_divided {text : List Char} (some : text ≠ []) (plain : ∀ c ∈ text, isPlain c = true)
    (rest : List Char) :
    words? (text ++ ' ' :: rest) = (words? rest).map (Word.bare text :: ·) := by
  obtain ⟨c, others, rfl⟩ := List.exists_cons_of_ne_nil some
  obtain ⟨first, plain⟩ := List.forall_mem_cons.mp plain
  unfold words?
  rw [List.cons_append, readWords_plain first, readWords_bare plain]
  rfl

/-- **Bare words, each with a blank after it, are read as they are.** -/
theorem words?_leads {leads : List (List Char)}
    (plain : ∀ text ∈ leads, text ≠ [] ∧ ∀ c ∈ text, isPlain c = true) (rest : List Char) :
    words? (leads.flatMap (· ++ [' ']) ++ rest) = (words? rest).map (leads.map Word.bare ++ ·) := by
  induction leads with
  | nil => exact Option.map_id'.symm
  | cons text leads ih =>
    obtain ⟨⟨some, first⟩, others⟩ := List.forall_mem_cons.mp plain
    rw [List.flatMap_cons, List.append_assoc, List.append_assoc, List.singleton_append,
      words?_divided some first, ih others, Option.map_map]
    rfl

/-! ### Quoted words -/

/-- Up to the quote at its end, the body is read as its text. A single quote in the text closes the
quotes, comes after a backslash and opens them again, so the next character is quoted like all
others. -/
theorem readWords_quoteBody (text : List Char) (word : Word) (rest : List Char) :
    readWords .quoted (some word) (quoteBody text ++ '\'' :: rest) =
      readWords .plain (some (word ++ Word.quoted text)) rest := by
  induction text generalizing word with
  | nil => rw [Word.quoted, List.map_nil, List.append_nil]; rfl
  | cons c text ih =>
    by_cases quote : c = '\''
    · subst quote
      have reopened : readWords .quoted (some word) (quoteBody ('\'' :: text) ++ '\'' :: rest) =
          readWords .quoted (some (word ++ [⟨'\'', true⟩])) (quoteBody text ++ '\'' :: rest) := rfl
      rw [reopened, ih, List.append_assoc]
      rfl
    · have kept : quoteBody (c :: text) = c :: quoteBody text := if_neg quote
      rw [kept, List.cons_append, readWords, if_neg quote, Option.getD_some, ih, List.append_assoc]
      rfl

/-- **A quoted text is read as one word**, each character quoted. -/
theorem words?_quote (text : List Char) : words? (quote text) = some [Word.quoted text] := by
  have opened : words? (quote text) = readWords .quoted (some []) (quoteBody text ++ ['\'']) := rfl
  rw [opened, readWords_quoteBody, List.nil_append]
  rfl

theorem mem_quoteBody {text : List Char} {c : Char} (member : c ∈ quoteBody text) :
    c = '\'' ∨ c = '\\' ∨ c ∈ text := by
  induction text with
  | nil => exact absurd member List.not_mem_nil
  | cons first text ih =>
    unfold quoteBody at member
    split at member
    · next quote =>
      subst quote
      simp only [List.mem_cons] at member ⊢
      grind
    · rcases List.mem_cons.mp member with here | there
      · exact Or.inr (Or.inr (List.mem_cons.mpr (Or.inl here)))
      · exact (ih there).imp_right (Or.imp_right (List.mem_cons_of_mem _))

/-- Quoting adds quotes and backslashes only. -/
theorem mem_quote {text : List Char} {c : Char} (member : c ∈ quote text) :
    c = '\'' ∨ c = '\\' ∨ c ∈ text := by
  rcases List.mem_cons.mp member with opening | rest
  · exact Or.inl opening
  · rcases List.mem_append.mp rest with body | closing
    · exact mem_quoteBody body
    · exact Or.inl (List.mem_singleton.mp closing)

end Shell

namespace Phone

variable {phone : Phone} {line component : String} {arguments : List String}

/-! ### What is handed to a shell -/

/-- The arguments with which a command line is run as the shell user. -/
def asShellUser (line : String) : List String :=
  [su, "-lp", "2000", "-c", line]

/-- The arguments with which a command line is run without changing the user. -/
def asPresentUser (line : String) : List String :=
  [sh, "-c", line]

/-- An argument that can be handed to a program: there is no NUL in it, and it is not too long. -/
def Fits (argument : String) : Prop :=
  '\x00' ∉ argument.toList ∧ argument.utf8ByteSize ≤ maxArgument

instance (argument : String) : Decidable (Fits argument) :=
  inferInstanceAs (Decidable (_ ∧ _))

/-- A program that is run at all is run once, with its arguments as they are. -/
theorem exec_ran (phone : Phone) (present : Bool) (arguments : List String) :
    ∃ handed, (phone.exec present arguments).2.ran = phone.ran ++ handed ∧
      handed.Sublist [arguments] := by
  have kept : ∃ handed, phone.ran = phone.ran ++ handed ∧ handed.Sublist [arguments] :=
    ⟨[], (List.append_nil _).symm, List.nil_sublist _⟩
  unfold exec
  split
  · exact kept
  · split
    · exact kept
    · split
      · exact kept
      · exact ⟨[arguments], rfl, List.Sublist.refl _⟩

theorem exec_absent (phone : Phone) (arguments : List String) :
    ∃ cause, phone.exec false arguments = (.error cause, phone) := by
  unfold exec
  split
  · exact ⟨_, rfl⟩
  · exact ⟨_, rfl⟩

/-- **A program that is there is run on arguments that can be handed to it.** -/
theorem exec_of_fits (phone : Phone) (fits : ∀ argument ∈ arguments, Fits argument) :
    phone.exec true arguments =
      (.ok (phone.results.headD {}),
        { phone with results := phone.results.tail, ran := phone.ran ++ [arguments] }) := by
  have free : ¬ (arguments.any fun argument => argument.toList.contains '\x00') = true := by
    intro nul
    obtain ⟨argument, member, here⟩ := List.any_eq_true.mp nul
    exact (fits argument member).1 (List.contains_iff_mem.mp here)
  have short : ¬ (arguments.any fun argument =>
      decide (maxArgument < argument.utf8ByteSize)) = true := by
    intro long
    obtain ⟨argument, member, here⟩ := List.any_eq_true.mp long
    exact Nat.not_lt_of_le (fits argument member).2 (of_decide_eq_true here)
  unfold exec
  rw [if_neg free, if_neg (by decide), if_neg short]

theorem runPlain_snd (phone : Phone) (line : String) :
    (phone.runPlain line).2 = (phone.exec phone.hasSh (asPresentUser line)).2 := by
  unfold runPlain asPresentUser
  split
  · next failed => rw [failed]
  · next done =>
    rw [done]
    split
    · rfl
    · rfl

/-- **A command line reaches at most two shells**, that of the shell user and then that of the
present one, and each as it is. -/
theorem run_ran (phone : Phone) (line : String) :
    ∃ handed, (phone.run line).2.ran = phone.ran ++ handed ∧
      handed.Sublist [asShellUser line, asPresentUser line] := by
  obtain ⟨first, ranFirst, onceFirst⟩ := exec_ran phone phone.hasSu (asShellUser line)
  have further : ∀ next : Phone, next.ran = phone.ran ++ first →
      ∃ handed, (next.runPlain line).2.ran = phone.ran ++ handed ∧
        handed.Sublist [asShellUser line, asPresentUser line] := by
    intro next ran
    obtain ⟨second, ranSecond, onceSecond⟩ := exec_ran next next.hasSh (asPresentUser line)
    refine ⟨first ++ second, ?_, onceFirst.append onceSecond⟩
    rw [runPlain_snd, ranSecond, ran, List.append_assoc]
  unfold run
  unfold asShellUser at ranFirst
  split
  · next next executed =>
    rw [executed] at ranFirst
    split
    · exact ⟨first, ranFirst, onceFirst.trans (List.sublist_append_left _ [asPresentUser line])⟩
    · exact further next ranFirst
  · next next executed =>
    rw [executed] at ranFirst
    exact further next ranFirst

/-- **A command line that can be handed to a program reaches a shell, if there is one.** -/
theorem run_reaches (fits : Fits line) (there : phone.hasSu = true ∨ phone.hasSh = true) :
    (phone.run line).2.ran ≠ phone.ran := by
  have grows : ∀ handed, handed ≠ [] → phone.ran ++ handed ≠ phone.ran :=
    fun handed some same => some (List.append_right_eq_self.mp same)
  have asShell : ∀ argument ∈ asShellUser line, Fits argument := by
    simp only [asShellUser, List.forall_mem_cons]
    exact ⟨by decide, by decide, by decide, by decide, fits, List.forall_mem_nil _⟩
  have asPresent : ∀ argument ∈ asPresentUser line, Fits argument := by
    simp only [asPresentUser, List.forall_mem_cons]
    exact ⟨by decide, by decide, fits, List.forall_mem_nil _⟩
  unfold run
  cases su : phone.hasSu with
  | true =>
    have executed := exec_of_fits phone asShell
    unfold asShellUser at executed
    rw [executed]
    dsimp only
    split
    · exact grows _ (List.cons_ne_nil _ _)
    · obtain ⟨handed, ran, _⟩ := exec_ran
        { phone with results := phone.results.tail, ran := phone.ran ++ [asShellUser line] }
        phone.hasSh (asPresentUser line)
      rw [runPlain_snd]
      intro same
      refine grows ([asShellUser line] ++ handed) (by simp) ?_
      rw [← List.append_assoc, ← ran]
      exact same
  | false =>
    have shell := there.resolve_left (by rw [su]; decide)
    obtain ⟨cause, missing⟩ := exec_absent phone [Phone.su, "-lp", "2000", "-c", line]
    rw [missing]
    dsimp only
    rw [runPlain_snd, shell, exec_of_fits phone asPresent]
    exact grows _ (List.cons_ne_nil _ _)

theorem command_snd (phone : Phone) (line : String) :
    (phone.command line).2 = (phone.run line).2 :=
  rfl

/-! ### The line that starts an app -/

/-- The words in front of the component. -/
def launchLeads : List (List Char) :=
  ["am".toList, "start".toList, "--user".toList, "current".toList, "-n".toList]

theorem toList_launchLine (component : String) :
    (launchLine component).toList =
      launchLeads.flatMap (· ++ [' ']) ++ Shell.quote component.toList := by
  have leads : launchLeads.flatMap (· ++ [' ']) = "am start --user current -n ".toList := by decide
  unfold launchLine
  rw [leads, String.toList_append, @String.toList_ofList (Shell.quote _)]

theorem words?_launchLine (component : String) :
    Shell.words? (launchLine component).toList = some [
      .bare "am".toList, .bare "start".toList, .bare "--user".toList, .bare "current".toList,
      .bare "-n".toList, .quoted component.toList] := by
  have listed : (launchLeads.all fun text => !text.isEmpty && text.all Shell.isPlain) = true := by
    decide
  have plain : ∀ text ∈ launchLeads, text ≠ [] ∧ ∀ c ∈ text, Shell.isPlain c = true := by
    intro text member
    have both := List.all_eq_true.mp listed text member
    rw [Bool.and_eq_true, Bool.not_eq_true', List.isEmpty_eq_false_iff, List.all_eq_true] at both
    exact both
  rw [toList_launchLine, Shell.words?_leads plain, Shell.words?_quote, Option.map_some, launchLeads]
  rfl

theorem nul_not_mem_launchLine (free : '\x00' ∉ component.toList) :
    '\x00' ∉ (launchLine component).toList := by
  rw [toList_launchLine]
  intro member
  rcases List.mem_append.mp member with lead | quoted
  · exact absurd lead (by decide)
  · rcases Shell.mem_quote quoted with quote | backslash | inside
    · exact absurd quote (by decide)
    · exact absurd backslash (by decide)
    · exact free inside

/-- **No component of an app is anything but one word to a shell.** The line that starts the app is
read as six words, and the last one is the component, character for character and with every
character quoted. That line, and nothing else, is what the shells are handed; one of them is reached
if there is one, unless there is a NUL in the component or the line is too long for an argument. -/
theorem component_is_one_word (phone : Phone) (component : String) :
    let line := launchLine component
    Shell.words? line.toList = some [
      .bare "am".toList, .bare "start".toList, .bare "--user".toList, .bare "current".toList,
      .bare "-n".toList, .quoted component.toList] ∧
    ∃ handed, (phone.launch component).2.ran = phone.ran ++ handed ∧
      handed.Sublist [asShellUser line, asPresentUser line] ∧
      ('\x00' ∉ component.toList → line.utf8ByteSize ≤ maxArgument →
        phone.hasSu = true ∨ phone.hasSh = true → handed ≠ []) := by
  intro line
  obtain ⟨handed, ran, each⟩ := run_ran phone line
  have launched : (phone.launch component).2 = (phone.run line).2 := command_snd phone line
  rw [launched]
  refine ⟨words?_launchLine component, handed, ran, each, fun free short there none => ?_⟩
  have reached : (phone.run line).2.ran ≠ phone.ran :=
    run_reaches ⟨nul_not_mem_launchLine free, short⟩ there
  rw [ran, none, List.append_nil] at reached
  exact reached rfl

/-- A component that tries to end the command and to begin another one. -/
theorem component_with_quotes_is_one_word :
    let component := "a'; reboot #\\'$(id)\n"
    Shell.words? (launchLine component).toList = some [
      .bare "am".toList, .bare "start".toList, .bare "--user".toList, .bare "current".toList,
      .bare "-n".toList, .quoted component.toList] ∧
    (Phone.launch {} component).2.ran ≠ [] := by
  intro component
  obtain ⟨read, handed, ran, _, reached⟩ := component_is_one_word {} component
  refine ⟨read, fun none => ?_⟩
  have same : handed = [] := ran.symm.trans none
  exact reached (by decide) (by decide) (Or.inl rfl) same

end Phone

end TouchDispatch
