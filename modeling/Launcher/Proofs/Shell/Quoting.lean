import Launcher.Shell.Reading
/-!
A shell reads a command line as the words that it was made of. Every chunk of a word has a style
that protects all of its characters. So a chunk is read as its text, and nothing in it is exposed to
what a shell acts on. -/
namespace Launcher.Shell

section Cutting

variable {c : Char} {styles : List Style} {held rest : List Char}

/-- Whether the character is read as itself when it is written in a chunk of the style. -/
def Style.protects : Style → Char → Bool
  | .bare, c => isBareSafe c
  | .single, c => c != '\x27'
  | .double, c => c != '!'

theorem Style.protects_of_holds {s : Style} (h : s.holds c) : s.protects c := by
  cases s with
  | bare => exact h
  | single =>
    simp only [holds, List.contains_cons, Bool.not_or, Bool.and_eq_true] at h
    exact h.1
  | double =>
    simp only [holds, List.contains_cons, Bool.not_or, Bool.and_eq_true] at h
    exact h.2.2.1

/-- A caret is protected as well, although no style holds one. -/
theorem openingStyles_fit : ∀ s ∈ openingStyles c, ∀ d ∈ [c], s.protects d := by
  intro s hs d hd
  obtain rfl := List.mem_singleton.1 hd
  unfold openingStyles at hs
  split at hs
  next caret =>
    obtain rfl := List.mem_singleton.1 hs
    rw [caret]
    decide
  next => exact Style.protects_of_holds (List.mem_filter.1 hs).2

theorem openingStyles_ne_nil : openingStyles c ≠ [] := by
  unfold openingStyles
  split
  · exact List.cons_ne_nil _ _
  next other =>
    by_cases quoted : c = '\x27' ∨ c = '\\'
    · have held : Style.double ∈ [Style.bare, .single, .double].filter (·.holds c) := by
        rcases quoted with rfl | rfl <;> decide
      exact List.ne_nil_of_mem held
    · have held : Style.single ∈ [Style.bare, .single, .double].filter (·.holds c) := by
        simpa [Style.holds, other] using quoted
      exact List.ne_nil_of_mem held

/-- The style protects the whole text. An empty text needs quotes around it. -/
structure Chunk.IsSound (k : Chunk) : Prop where
  protects : ∀ c ∈ k.text, k.style.protects c
  nonempty_of_bare : k.style = .bare → k.text ≠ []

theorem Chunk.isSound_of_fits (some_style : styles ≠ []) (nonempty : held ≠ [])
    (fits : ∀ s ∈ styles, ∀ c ∈ held, s.protects c) :
    Chunk.IsSound ⟨styles.headD .single, held⟩ := by
  obtain ⟨s, others, rfl⟩ := List.exists_cons_of_ne_nil some_style
  exact ⟨fits s List.mem_cons_self, fun _ => nonempty⟩

/-- At each step there is a style left, and all that are left protect what is held. -/
theorem chunksFrom_sound (some_style : styles ≠ []) (nonempty : held ≠ [])
    (fits : ∀ s ∈ styles, ∀ c ∈ held, s.protects c) :
    ∀ k ∈ chunksFrom styles held rest, k.IsSound := by
  induction rest generalizing styles held with
  | nil => exact List.forall_mem_singleton.2 (Chunk.isSound_of_fits some_style nonempty fits)
  | cons c rest ih =>
    simp only [chunksFrom]
    split
    next none_left =>
      have here := Chunk.isSound_of_fits some_style nonempty fits
      have later := ih openingStyles_ne_nil (List.cons_ne_nil c []) openingStyles_fit
      exact List.forall_mem_cons.2 ⟨here, later⟩
    next some_left =>
      apply ih
      · simpa using some_left
      · exact List.append_ne_nil_of_left_ne_nil nonempty _
      · intro s hs d hd
        obtain ⟨old, holds⟩ := List.mem_filter.1 hs
        rcases List.mem_append.1 hd with hd | hd
        · exact fits s old d hd
        · obtain rfl := List.mem_singleton.1 hd
          exact Style.protects_of_holds holds

theorem chunks_sound (word : List Char) : ∀ k ∈ chunks word, k.IsSound := by
  cases word with
  | nil => exact List.forall_mem_singleton.2 ⟨nofun, nofun⟩
  | cons c rest =>
    exact chunksFrom_sound openingStyles_ne_nil (List.cons_ne_nil c []) openingStyles_fit

theorem chunksFrom_text : (chunksFrom styles held rest).flatMap Chunk.text = held ++ rest := by
  induction rest generalizing styles held with
  | nil => simp [chunksFrom]
  | cons c rest ih =>
    simp only [chunksFrom]
    split
    · simp [ih]
    · simp [ih]

/-- Nothing of the word is lost, and nothing is written twice. -/
theorem chunks_text (word : List Char) : (chunks word).flatMap Chunk.text = word := by
  cases word with
  | nil => rfl
  | cons c rest => exact chunksFrom_text

theorem chunksFrom_ne_nil : chunksFrom styles held rest ≠ [] := by
  induction rest generalizing styles held with
  | nil => exact List.cons_ne_nil _ _
  | cons c rest ih =>
    simp only [chunksFrom]
    split
    · exact List.cons_ne_nil _ _
    · exact ih

theorem chunks_ne_nil (word : List Char) : chunks word ≠ [] := by
  cases word with
  | nil => exact List.cons_ne_nil _ _
  | cons c rest => exact chunksFrom_ne_nil

end Cutting

section Reading

variable {c : Char} {k : Chunk} {ks : List Chunk}

-- Reading is unfolded wherever the next character is known.
attribute [local simp] readFrom

theorem not_isBareSafe_of_isActive (h : isActive c) : isBareSafe c = false := by
  have each : ∀ d, isActive d → (!isBareSafe d) = true := by
    unfold isActive
    simp only [List.contains_iff_mem]
    exact List.all_eq_true.1 rfl
  simpa using each c h

theorem not_isActive_of_isBareSafe (h : isBareSafe c) : isActive c = false := by
  by_cases active : isActive c
  · exact absurd h (by simp [not_isBareSafe_of_isActive active])
  · simpa using active

theorem readFrom_bare_cons (h : isBareSafe c) (word : Option (List Char)) (rest : List Char) :
    readFrom .bare word (c :: rest) = readFrom .bare (extendWord word c) rest := by
  have inactive := not_isActive_of_isBareSafe h
  have no_separator : isSeparator c = false := by
    cases separates : isSeparator c with
    | false => rfl
    | true =>
      simp only [isSeparator, Bool.or_eq_true, beq_iff_eq] at separates
      rcases separates with rfl | rfl <;> cases h
  have no_quote : c ≠ '\x27' ∧ c ≠ '\x22' := by
    constructor <;> rintro rfl <;> cases h
  simp [no_separator, no_quote, inactive]

theorem readFrom_bare {text : List Char} (safe : ∀ c ∈ text, isBareSafe c) (w rest : List Char) :
    readFrom .bare (some w) (text ++ rest) = readFrom .bare (some (w ++ text)) rest := by
  induction text generalizing w with
  | nil => simp
  | cons c text ih =>
    obtain ⟨here, later⟩ := List.forall_mem_cons.1 safe
    rw [List.cons_append, readFrom_bare_cons here, extendWord, ih later]
    simp

theorem readFrom_single {text : List Char} (plain : ∀ c ∈ text, c ≠ '\x27') (w rest : List Char) :
    readFrom .single (some w) (text ++ '\x27' :: rest) =
      readFrom .bare (some (w ++ text)) rest := by
  induction text generalizing w with
  | nil => simp
  | cons c text ih =>
    obtain ⟨here, later⟩ := List.forall_mem_cons.1 plain
    have step : readFrom .single (some w) (c :: (text ++ '\x27' :: rest)) =
        readFrom .single (some (w ++ [c])) (text ++ '\x27' :: rest) := by
      simp [here, extendWord]
    rw [List.cons_append, step, ih later]
    simp

/-- A character between double quotes is read as itself, behind a backslash where it needs one. -/
theorem readFrom_escapeDouble (h : c ≠ '!') (w rest : List Char) :
    readFrom .double (some w) (escapeDouble c ++ rest) =
      readFrom .double (some (w ++ [c])) rest := by
  unfold escapeDouble
  split
  next special => simp [special, extendWord]
  next plain =>
    simp only [needsBackslash, List.contains_cons, Bool.or_eq_true, beq_iff_eq, not_or] at plain
    obtain ⟨dollar, backtick, quote, backslash, -⟩ := plain
    have inactive : isActiveInDouble c = false := by
      simp [isActiveInDouble, dollar, backtick, h]
    rw [List.singleton_append, readFrom.eq_def]
    simp [quote, backslash, inactive, extendWord]

theorem readFrom_double {text : List Char} (plain : ∀ c ∈ text, c ≠ '!') (w rest : List Char) :
    readFrom .double (some w) (text.flatMap escapeDouble ++ '\x22' :: rest) =
      readFrom .bare (some (w ++ text)) rest := by
  induction text generalizing w with
  | nil =>
    rw [List.flatMap_nil, List.nil_append, readFrom.eq_def]
    simp
  | cons c text ih =>
    obtain ⟨here, later⟩ := List.forall_mem_cons.1 plain
    rw [List.flatMap_cons, List.append_assoc, readFrom_escapeDouble here, ih later]
    simp

/-- A chunk adds its text to the word that is being read. -/
theorem Chunk.IsSound.read (h : k.IsSound) (word : Option (List Char)) (rest : List Char) :
    readFrom .bare word (k.chars ++ rest) =
      readFrom .bare (some (word.getD [] ++ k.text)) rest := by
  obtain ⟨style, text⟩ := k
  obtain ⟨protects, nonempty⟩ := h
  cases style with
  | bare =>
    obtain ⟨c, text, rfl⟩ := List.exists_cons_of_ne_nil (nonempty rfl)
    obtain ⟨here, later⟩ := List.forall_mem_cons.1 protects
    change readFrom .bare word (c :: (text ++ rest)) = _
    rw [readFrom_bare_cons here, extendWord, readFrom_bare later]
    simp
  | single =>
    have plain : ∀ c ∈ text, c ≠ '\x27' := by simpa [Style.protects] using protects
    have opening : readFrom .bare word ((Chunk.mk .single text).chars ++ rest) =
        readFrom .single (some (word.getD [])) (text ++ '\x27' :: rest) := by
      simp [Chunk.chars, isSeparator]
    rw [opening, readFrom_single plain]
  | double =>
    have plain : ∀ c ∈ text, c ≠ '!' := by simpa [Style.protects] using protects
    have opening : readFrom .bare word ((Chunk.mk .double text).chars ++ rest) =
        readFrom .double (some (word.getD [])) (text.flatMap escapeDouble ++ '\x22' :: rest) := by
      simp [Chunk.chars, isSeparator]
    rw [opening, readFrom_double plain]

theorem readFrom_chunks (sound : ∀ k ∈ ks, k.IsSound) (w rest : List Char) :
    readFrom .bare (some w) (ks.flatMap Chunk.chars ++ rest) =
      readFrom .bare (some (w ++ ks.flatMap Chunk.text)) rest := by
  induction ks generalizing w with
  | nil => simp
  | cons k ks ih =>
    obtain ⟨here, later⟩ := List.forall_mem_cons.1 sound
    rw [List.flatMap_cons, List.append_assoc, here.read, ih later]
    simp

theorem readFrom_quoteChars (word rest : List Char) :
    readFrom .bare none (quoteChars word ++ rest) = readFrom .bare (some word) rest := by
  obtain ⟨k, ks, split⟩ := List.exists_cons_of_ne_nil (chunks_ne_nil word)
  have sound := chunks_sound word
  have text := chunks_text word
  rw [split] at sound text
  obtain ⟨here, later⟩ := List.forall_mem_cons.1 sound
  rw [quoteChars, split, List.flatMap_cons, List.append_assoc, here.read, readFrom_chunks later]
  simpa using congrArg (fun w => readFrom .bare (some w) rest) text

theorem readWords_joinChars (words : List (List Char)) :
    readWords (joinChars words) = some words := by
  unfold readWords
  induction words with
  | nil => rfl
  | cons word words ih =>
    cases words with
    | nil =>
      have read := readFrom_quoteChars word []
      rw [List.append_nil] at read
      exact read
    | cons next rest =>
      change readFrom .bare none (quoteChars word ++ ' ' :: joinChars (next :: rest)) = _
      rw [readFrom_quoteChars]
      simp [isSeparator, ih]

end Reading

/-- Where a shell is in a line: outside of quotes, in quotes of a kind, or behind a backslash in
double quotes. -/
inductive Place where
  | bare
  | single
  | double
  | escaped
  deriving DecidableEq, Repr

namespace Place

def next : Place → Char → Place
  | .bare, c => if c = '\x27' then .single else if c = '\x22' then .double else .bare
  | .single, c => if c = '\x27' then .bare else .single
  | .double, c => if c = '\x22' then .bare else if c = '\\' then .escaped else .double
  | .escaped, _ => .double

def after (p : Place) (s : List Char) : Place := s.foldl next p

/-- Whether a shell acts on the character at the place. A quote outside of quotes only begins what
is quoted, and behind a backslash what needs none keeps the backslash or joins lines. -/
def exposes : Place → Char → Bool
  | .bare, c => isActive c && c != '\x27' && c != '\x22'
  | .single, _ => false
  | .double, c => isActiveInDouble c
  | .escaped, c => !needsBackslash c

/-- Read from the place, nothing in the text is exposed. -/
def IsProtected (p : Place) (s : List Char) : Prop :=
  ∀ before c behind, s = before ++ c :: behind → (p.after before).exposes c = false

/-- Reading the text leads back to the place, and nothing in it is exposed. -/
structure IsClosed (p : Place) (s : List Char) : Prop where
  returns : p.after s = p
  covered : IsProtected p s

section Protection

variable {p : Place} {c : Char} {s t : List Char}

theorem after_append : p.after (s ++ t) = (p.after s).after t := List.foldl_append

theorem isProtected_nil : IsProtected p [] := by
  intro before c behind split
  simp at split

theorem isProtected_cons :
    IsProtected p (c :: s) ↔ p.exposes c = false ∧ IsProtected (p.next c) s := by
  constructor
  · intro h
    refine ⟨h [] c s rfl, ?_⟩
    intro before d behind split
    exact h (c :: before) d behind (by rw [split]; rfl)
  · rintro ⟨here, later⟩ before d behind split
    cases before with
    | nil =>
      obtain ⟨rfl, -⟩ := List.cons.inj split
      exact here
    | cons b before =>
      obtain ⟨rfl, same⟩ := List.cons.inj split
      exact later before d behind same

theorem isProtected_append :
    IsProtected p (s ++ t) ↔ IsProtected p s ∧ IsProtected (p.after s) t := by
  induction s generalizing p with
  | nil => simp [isProtected_nil, Place.after]
  | cons c s ih =>
    rw [List.cons_append, isProtected_cons, isProtected_cons, ih, and_assoc]
    rfl

theorem isClosed_nil : IsClosed p [] := ⟨rfl, isProtected_nil⟩

theorem isClosed_singleton (returns : p.next c = p) (unexposed : p.exposes c = false) :
    IsClosed p [c] :=
  ⟨returns, isProtected_cons.2 ⟨unexposed, isProtected_nil⟩⟩

theorem IsClosed.append (hs : IsClosed p s) (ht : IsClosed p t) : IsClosed p (s ++ t) := by
  constructor
  · rw [after_append, hs.returns, ht.returns]
  · refine isProtected_append.2 ⟨hs.covered, ?_⟩
    rw [hs.returns]
    exact ht.covered

theorem isClosed_flatMap {f : α → List Char} {items : List α}
    (each : ∀ a ∈ items, IsClosed p (f a)) : IsClosed p (items.flatMap f) := by
  induction items with
  | nil => exact isClosed_nil
  | cons a rest ih =>
    obtain ⟨here, later⟩ := List.forall_mem_cons.1 each
    rw [List.flatMap_cons]
    exact here.append (ih later)

/-- A quote leads to another place, and the same quote behind the text leads back. -/
theorem isClosed_quoted {quote : Char} {inside : Place} (opens : p.next quote = inside)
    (closes : inside.next quote = p) (unexposed : p.exposes quote = false)
    (unexposed' : inside.exposes quote = false) (h : IsClosed inside s) :
    IsClosed p (quote :: (s ++ [quote])) := by
  constructor
  · change (p.next quote).after (s ++ [quote]) = p
    rw [opens, after_append, h.returns]
    exact closes
  · rw [isProtected_cons, opens, isProtected_append, h.returns, isProtected_cons]
    exact ⟨unexposed, h.covered, unexposed', isProtected_nil⟩

theorem isClosed_bare (h : isBareSafe c) : IsClosed .bare [c] := by
  have no_quote : c ≠ '\x27' ∧ c ≠ '\x22' := by
    constructor <;> rintro rfl <;> cases h
  apply isClosed_singleton
  · simp [next, no_quote]
  · simp [exposes, not_isActive_of_isBareSafe h]

theorem isClosed_single (h : c ≠ '\x27') : IsClosed .single [c] := by
  apply isClosed_singleton
  · simp [next, h]
  · rfl

theorem isClosed_escapeDouble (h : c ≠ '!') : IsClosed .double (escapeDouble c) := by
  unfold escapeDouble
  split
  next special =>
    constructor
    · rfl
    · rw [isProtected_cons, isProtected_cons]
      exact ⟨rfl, by simpa [next, exposes] using special, isProtected_nil⟩
  next plain =>
    simp only [needsBackslash, List.contains_cons, Bool.or_eq_true, beq_iff_eq, not_or] at plain
    obtain ⟨dollar, backtick, quote, backslash, -⟩ := plain
    apply isClosed_singleton
    · simp [next, quote, backslash]
    · simp [exposes, isActiveInDouble, dollar, backtick, h]

end Protection
end Place

theorem Chunk.IsSound.isClosed {k : Chunk} (h : k.IsSound) : Place.IsClosed .bare k.chars := by
  obtain ⟨style, text⟩ := k
  have protects := h.protects
  cases style with
  | bare =>
    have each := Place.isClosed_flatMap fun c hc => Place.isClosed_bare (protects c hc)
    rwa [List.flatMap_singleton'] at each
  | single =>
    have plain : ∀ c ∈ text, c ≠ '\x27' := by simpa [Style.protects] using protects
    have each := Place.isClosed_flatMap fun c hc => Place.isClosed_single (plain c hc)
    rw [List.flatMap_singleton'] at each
    exact Place.isClosed_quoted rfl rfl rfl rfl each
  | double =>
    have plain : ∀ c ∈ text, c ≠ '!' := by simpa [Style.protects] using protects
    have each := Place.isClosed_flatMap fun c hc => Place.isClosed_escapeDouble (plain c hc)
    exact Place.isClosed_quoted rfl rfl rfl rfl each

theorem isClosed_quoteChars (word : List Char) : Place.IsClosed .bare (quoteChars word) :=
  Place.isClosed_flatMap fun k hk => (chunks_sound word k hk).isClosed

theorem isClosed_joinChars (words : List (List Char)) : Place.IsClosed .bare (joinChars words) := by
  induction words with
  | nil => exact Place.isClosed_nil
  | cons word words ih =>
    cases words with
    | nil => exact isClosed_quoteChars word
    | cons next rest =>
      have blank : Place.IsClosed .bare [' '] := Place.isClosed_singleton rfl rfl
      exact (isClosed_quoteChars word).append (blank.append ih)

section CommandLine

variable {binary : String} {arguments : List String}

theorem toList_commandLine (h : ∀ w ∈ binary :: arguments, '\x00' ∉ w.toList) :
    (commandLine binary arguments).toList =
      joinChars ((binary :: arguments).map String.toList) := by
  have no_nul : ((binary :: arguments).any fun w => w.toList.contains '\x00') = false := by
    simpa using h
  simp only [commandLine, no_nul]
  exact String.toList_ofList

/-- A shell reads a command line as the binary and the arguments, whatever these consist of. No
quote is left open, and no character stands where a shell would act on it. -/
theorem commandLine_reads_back (h : ∀ w ∈ binary :: arguments, '\x00' ∉ w.toList) :
    read? (commandLine binary arguments) = some (binary :: arguments) ∧
    Place.bare.after (commandLine binary arguments).toList = .bare ∧
    ∀ before c behind, (commandLine binary arguments).toList = before ++ c :: behind →
      (Place.bare.after before).exposes c = false := by
  rw [read?, toList_commandLine h]
  have closed := isClosed_joinChars ((binary :: arguments).map String.toList)
  refine ⟨?_, closed.returns, closed.covered⟩
  rw [readWords_joinChars]
  simp

namespace Sample

def words : List String :=
  ["", "^^", "don\x27t \x22go\x22", "a\\b!\x27", "x\ny", "é~", "$HOME\x60ls\x60", "-v"]

def written : List String :=
  ["\x27\x27", "\x27^\x27\x27^\x27", "\x22don\x27t \\\x22go\\\x22\x22",
    "\x22a\\\\b\x22\x27!\x27\x22\x27\x22", "\x27x\ny\x27", "\x27é~\x27",
    "\x27$HOME\x60ls\x60\x27", "-v"]

end Sample

/-- Empty words, quotes, carets, exclamation marks and line breaks come back as they are. -/
theorem commandLine_reads_back_sample :
    commandLine "/bin/tool" Sample.words = " ".intercalate ("/bin/tool" :: Sample.written) ∧
    read? (commandLine "/bin/tool" Sample.words) = some ("/bin/tool" :: Sample.words) :=
  ⟨by decide, (commandLine_reads_back (by decide)).1⟩

end CommandLine
end Launcher.Shell
