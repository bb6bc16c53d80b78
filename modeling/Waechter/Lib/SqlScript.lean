import Mathlib.Algebra.Order.BigOperators.Group.List
import Mathlib.Algebra.Order.Group.Nat
import Mathlib.Data.List.Basic

/-!
# The statements of an SQL script

A script is read as tokens, by the lexical rules of SQLite: white space, comments to the end of the
line and between `/*` and `*/`, literals and identifiers in quotes or brackets, words, and single
characters. A semicolon that is a token of its own ends a statement, unless the statement is a
`CREATE TRIGGER` whose body is not yet closed by `;END;`.

* `text_tokens`: the tokens make up the script.
* `intercalate_segments`: so do its segments, with a semicolon between each two.
* `splitOn_script`: a split at every semicolon splits the segments one by one.
-/

namespace Lib.Sql

/-! ## Tokens -/

/-- What a token is for the end of a statement; `blank` is white space or a comment. -/
inductive Kind where
  | semi
  | blank
  | create
  | temp
  | trigger
  | endWord
  | explain
  | other
  deriving DecidableEq

/-- A token, which is never empty. -/
structure Token where
  kind : Kind
  head : Char
  tail : List Char

def Token.text (t : Token) : List Char := t.head :: t.tail

/-- White space. -/
def isBlank (c : Char) : Bool := c ∈ [' ', '\t', '\n', '\x0c', '\r']

/-- The characters of words. -/
def isIdChar (c : Char) : Bool := c.isAlphanum || c == '_' || c == '$' || 0x7F < c.toNat

def apostrophe : Char := Char.ofNat 39

def doubleQuote : Char := Char.ofNat 34

def backQuote : Char := Char.ofNat 96

/-- The character that closes a quoted token. A doubled quote inside closes it and opens the next
one. -/
def closing (c : Char) : Option Char :=
  if c = '[' then some ']'
  else if c ∈ [apostrophe, doubleQuote, backQuote] then some c
  else none

/-- The length of a comment behind its opening, the closing included. -/
def commentLength : List Char → Nat
  | '*' :: '/' :: _ => 2
  | _ :: cs => commentLength cs + 1
  | [] => 0

/-- The kind of a word, in capital or small letters. -/
def keyword (word : List Char) : Kind :=
  let lower := String.ofList (word.map Char.toLower)
  if lower = "create" then .create
  else if lower = "temp" ∨ lower = "temporary" then .temp
  else if lower = "trigger" then .trigger
  else if lower = "end" then .endWord
  else if lower = "explain" then .explain
  else .other

/-- The kind of the first token and how many characters of it follow the first one. -/
def shape (c : Char) (cs : List Char) : Kind × Nat :=
  if c = ';' then (.semi, 0)
  else if isBlank c then (.blank, 0)
  else if c = '-' ∧ cs.head? = some '-' then (.blank, (cs.takeWhile (· ≠ '\n')).length)
  else if c = '/' ∧ cs.head? = some '*' then (.blank, commentLength (cs.drop 1) + 1)
  else
    match closing c with
    | some close => (.other, (cs.takeWhile (· ≠ close)).length + 1)
    | none =>
      if isIdChar c then
        (keyword (c :: cs.takeWhile isIdChar), (cs.takeWhile isIdChar).length)
      else (.other, 0)

def tokensUpTo : Nat → List Char → List Token
  | fuel + 1, c :: cs =>
    { kind := (shape c cs).1, head := c, tail := cs.take (shape c cs).2 } ::
      tokensUpTo fuel (cs.drop (shape c cs).2)
  | _, _ => []

/-- The tokens of a script. Each takes a character at least. -/
def tokens (script : List Char) : List Token := tokensUpTo script.length script

/-- The text of some tokens. -/
def text (ts : List Token) : List Char := ts.flatMap Token.text

theorem text_tokensUpTo : ∀ (fuel : Nat) (script : List Char), script.length ≤ fuel →
    text (tokensUpTo fuel script) = script
  | 0, script, h => by
    rw [List.length_eq_zero_iff.mp (Nat.le_zero.mp h)]
    rfl
  | fuel + 1, [], _ => rfl
  | fuel + 1, c :: cs, h => by
    have hrest := text_tokensUpTo fuel (cs.drop (shape c cs).2) (by
      rw [List.length_cons] at h
      rw [List.length_drop]
      omega)
    change c :: (cs.take (shape c cs).2 ++ text (tokensUpTo fuel _)) = _
    rw [hrest, List.take_append_drop]

/-- **The tokens make up the script.** -/
theorem text_tokens (script : List Char) : text (tokens script) = script :=
  text_tokensUpTo _ script (Nat.le_refl _)

/-- What a token of the lexer looks like: a semicolon is one character, white space too, a comment
begins with `-` or `/`, and everything else begins with a visible character. -/
def Token.Lexed (t : Token) : Prop :=
  match t.kind with
  | .semi => t.text = [';']
  | .blank => (isBlank t.head = true ∧ t.tail = []) ∨ t.head = '-' ∨ t.head = '/'
  | _ => isBlank t.head = false ∧ t.head ≠ ';'

theorem keyword_ne (word : List Char) : keyword word ≠ .semi ∧ keyword word ≠ .blank := by
  unfold keyword
  dsimp only
  split
  · exact ⟨Kind.noConfusion, Kind.noConfusion⟩
  · split
    · exact ⟨Kind.noConfusion, Kind.noConfusion⟩
    · split
      · exact ⟨Kind.noConfusion, Kind.noConfusion⟩
      · split
        · exact ⟨Kind.noConfusion, Kind.noConfusion⟩
        · split <;> exact ⟨Kind.noConfusion, Kind.noConfusion⟩

/-- A token that is neither a semicolon nor blank is lexed when its first character is visible. -/
theorem Token.lexed_of_visible {t : Token} (hsemi : t.kind ≠ .semi) (hblank : t.kind ≠ .blank)
    (h : isBlank t.head = false ∧ t.head ≠ ';') : t.Lexed := by
  unfold Token.Lexed
  cases hkind : t.kind with
  | semi => exact absurd hkind hsemi
  | blank => exact absurd hkind hblank
  | _ => exact h

theorem visible_of_lexed {t : Token} (h : t.Lexed) (hsemi : t.kind ≠ .semi)
    (hblank : t.kind ≠ .blank) : isBlank t.head = false ∧ t.head ≠ ';' := by
  unfold Token.Lexed at h
  cases hkind : t.kind with
  | semi => exact absurd hkind hsemi
  | blank => exact absurd hkind hblank
  | _ =>
    rw [hkind] at h
    exact h

theorem lexed_shape (c : Char) (cs : List Char) :
    Token.Lexed { kind := (shape c cs).1, head := c, tail := cs.take (shape c cs).2 } := by
  unfold shape
  by_cases hsemi : c = ';'
  · rw [if_pos hsemi, hsemi]
    rfl
  rw [if_neg hsemi]
  by_cases hblank : isBlank c = true
  · rw [if_pos hblank]
    exact .inl ⟨hblank, rfl⟩
  rw [if_neg hblank]
  have hvisible : isBlank c = false ∧ c ≠ ';' := ⟨Bool.eq_false_iff.mpr hblank, hsemi⟩
  split
  · rename_i hdash
    exact .inr (.inl hdash.1)
  · split
    · rename_i hslash
      exact .inr (.inr hslash.1)
    · split
      · exact Token.lexed_of_visible Kind.noConfusion Kind.noConfusion hvisible
      · split
        · obtain ⟨hs, hb⟩ := keyword_ne (c :: cs.takeWhile isIdChar)
          exact Token.lexed_of_visible hs hb hvisible
        · exact Token.lexed_of_visible Kind.noConfusion Kind.noConfusion hvisible

theorem lexed_tokensUpTo : ∀ (fuel : Nat) (script : List Char),
    ∀ t ∈ tokensUpTo fuel script, t.Lexed
  | 0, _, _, ht => nomatch ht
  | _ + 1, [], _, ht => nomatch ht
  | fuel + 1, c :: cs, t, ht => by
    rcases List.mem_cons.mp ht with rfl | ht
    · exact lexed_shape c cs
    · exact lexed_tokensUpTo fuel _ t ht

/-! ## Statements -/

/-- How far a statement is: at its start, in the middle of it, behind `EXPLAIN` or `CREATE`, in the
body of a trigger, and there behind a semicolon and behind the `END` that follows one. -/
inductive Progress where
  | start
  | normal
  | explain
  | create
  | trigger
  | semi
  | endWord
  deriving DecidableEq

def Progress.next : Progress → Kind → Progress
  | p, .blank => p
  | .trigger, .semi => .semi
  | .trigger, _ => .trigger
  | .semi, .semi => .semi
  | .semi, .endWord => .endWord
  | .semi, _ => .trigger
  | .endWord, .semi => .start
  | .endWord, _ => .trigger
  | _, .semi => .start
  | .start, .explain => .explain
  | .start, .create => .create
  | .start, _ => .normal
  | .normal, _ => .normal
  | .explain, .create => .create
  | .explain, .other => .explain
  | .explain, _ => .normal
  | .create, .temp => .create
  | .create, .trigger => .trigger
  | .create, _ => .normal

/-- The tokens between the semicolons that end statements. -/
def segmentsFrom : Progress → List Token → List (List Token)
  | _, [] => [[]]
  | p, t :: ts =>
    if t.kind = .semi ∧ p.next t.kind = .start then [] :: segmentsFrom .start ts
    else
      match segmentsFrom (p.next t.kind) ts with
      | [] => [[t]]
      | segment :: segments => (t :: segment) :: segments

/-- The segments of a script. -/
def segments (script : List Char) : List (List Token) := segmentsFrom .start (tokens script)

/-- A segment that is more than white space and comments. -/
def isStatement (segment : List Token) : Bool :=
  segment.any fun t => t.kind ≠ .semi ∧ t.kind ≠ .blank

theorem segmentsFrom_ne_nil (p : Progress) (ts : List Token) : segmentsFrom p ts ≠ [] := by
  cases ts with
  | nil => exact List.cons_ne_nil _ _
  | cons t ts =>
    rw [segmentsFrom]
    split
    · exact List.cons_ne_nil _ _
    · split <;> exact List.cons_ne_nil _ _

theorem mem_of_mem_segmentsFrom : ∀ {ts : List Token} {p : Progress} {segment : List Token},
    segment ∈ segmentsFrom p ts → ∀ t ∈ segment, t ∈ ts
  | [], _, segment, h, t, ht => by
    rw [List.mem_singleton.mp h] at ht
    exact nomatch ht
  | t' :: ts, p, segment, h, t, ht => by
    rw [segmentsFrom] at h
    split at h
    · rcases List.mem_cons.mp h with rfl | h
      · exact nomatch ht
      · exact List.mem_cons_of_mem _ (mem_of_mem_segmentsFrom h t ht)
    · cases hrest : segmentsFrom (p.next t'.kind) ts with
      | nil => exact absurd hrest (segmentsFrom_ne_nil _ _)
      | cons first others =>
        rw [hrest] at h
        rcases List.mem_cons.mp h with rfl | h
        · rcases List.mem_cons.mp ht with rfl | ht
          · exact List.mem_cons_self
          · refine List.mem_cons_of_mem _ (mem_of_mem_segmentsFrom (p := p.next t'.kind) ?_ t ht)
            rw [hrest]
            exact List.mem_cons_self
        · refine List.mem_cons_of_mem _ (mem_of_mem_segmentsFrom (p := p.next t'.kind) ?_ t ht)
          rw [hrest]
          exact List.mem_cons_of_mem _ h

theorem intercalate_cons_append {α : Type} (sep a s : List α) (ss : List (List α)) :
    sep.intercalate ((a ++ s) :: ss) = a ++ sep.intercalate (s :: ss) := by
  cases ss with
  | nil => simp [List.intercalate]
  | cons s' ss => simp [List.intercalate, List.append_assoc]

theorem intercalate_nil_cons {α : Type} (sep : List α) {ss : List (List α)} (h : ss ≠ []) :
    sep.intercalate ([] :: ss) = sep ++ sep.intercalate ss := by
  cases ss with
  | nil => exact absurd rfl h
  | cons s' ss => simp [List.intercalate]

/-- The segments make up the tokens, with a semicolon between each two. -/
theorem intercalate_segmentsFrom : ∀ (ts : List Token) (p : Progress), (∀ t ∈ ts, t.Lexed) →
    [';'].intercalate ((segmentsFrom p ts).map text) = text ts
  | [], _, _ => rfl
  | t :: ts, p, h => by
    rw [List.forall_mem_cons] at h
    rw [segmentsFrom]
    split
    · rename_i hends
      have htext : t.text = [';'] := by
        have ht := h.1
        unfold Token.Lexed at ht
        rw [hends.1] at ht
        exact ht
      rw [List.map_cons]
      change [';'].intercalate ([] :: _) = t.text ++ text ts
      rw [intercalate_nil_cons _ (by simp [segmentsFrom_ne_nil]), intercalate_segmentsFrom ts _ h.2,
        htext]
    · have hrest := intercalate_segmentsFrom ts (p.next t.kind) h.2
      cases hsegments : segmentsFrom (p.next t.kind) ts with
      | nil => exact absurd hsegments (segmentsFrom_ne_nil _ _)
      | cons first others =>
        rw [hsegments, List.map_cons] at hrest
        change [';'].intercalate ((t.text ++ text first) :: others.map text) = t.text ++ text ts
        rw [intercalate_cons_append, hrest]

/-- **The segments make up the script**, with a semicolon between each two. -/
theorem intercalate_segments (script : List Char) :
    [';'].intercalate ((segments script).map text) = script :=
  (intercalate_segmentsFrom _ _ (lexed_tokensUpTo _ script)).trans (text_tokens script)

theorem lexed_of_mem_segments {script : List Char} {segment : List Token}
    (h : segment ∈ segments script) : ∀ t ∈ segment, t.Lexed :=
  fun t ht => lexed_tokensUpTo _ script t (mem_of_mem_segmentsFrom h t ht)

/-! ## Splitting at every semicolon -/

theorem splitOn_intercalate_eq {α : Type} [BEq α] [LawfulBEq α] (a : α) : ∀ {ls : List (List α)},
    ls ≠ [] → ([a].intercalate ls).splitOn a = ls.flatMap (·.splitOn a)
  | [], h => absurd rfl h
  | [l], _ => by simp [List.intercalate]
  | l :: l' :: ls, _ => by
    have hrest := splitOn_intercalate_eq a (List.cons_ne_nil l' ls)
    have hcons : [a].intercalate (l :: l' :: ls) = l ++ a :: [a].intercalate (l' :: ls) := by
      simp [List.intercalate]
    rw [hcons, List.splitOn_append_cons_self, hrest]
    rfl

/-- **A split at every semicolon splits the segments one by one.** -/
theorem splitOn_script (script : List Char) :
    script.splitOn ';' = (segments script).flatMap fun segment => (text segment).splitOn ';' := by
  conv_lhs => rw [← intercalate_segments script]
  rw [splitOn_intercalate_eq _ (by simp [segments, segmentsFrom_ne_nil]), List.flatMap_map]

/-- The pieces hold what the list holds, but for the separator. -/
theorem exists_mem_splitOn_iff {α : Type} [BEq α] [LawfulBEq α] (a x : α) : ∀ (l : List α),
    (∃ piece ∈ l.splitOn a, x ∈ piece) ↔ x ∈ l ∧ x ≠ a
  | [] => by simp
  | y :: l => by
    have ih := exists_mem_splitOn_iff a x l
    rw [List.splitOn_cons_eq_if_modifyHead]
    by_cases hy : y = a
    · subst hy
      rw [if_pos (beq_self_eq_true y), List.exists_mem_cons_iff, ih, List.mem_cons]
      simp only [List.not_mem_nil, false_or]
      exact ⟨fun h => ⟨.inr h.1, h.2⟩, fun h => ⟨h.1.resolve_left h.2, h.2⟩⟩
    · rw [if_neg (by simpa using hy)]
      cases hsplit : l.splitOn a with
      | nil => exact absurd hsplit (List.splitOn_ne_nil a l)
      | cons piece pieces =>
        rw [hsplit, List.exists_mem_cons_iff] at ih
        rw [List.modifyHead_cons, List.exists_mem_cons_iff, List.mem_cons, List.mem_cons, or_assoc,
          ih]
        refine ⟨fun h => ?_, fun h => h.1.imp id fun hx => ⟨hx, h.2⟩⟩
        rcases h with rfl | h
        · exact ⟨.inl rfl, hy⟩
        · exact ⟨.inr h.1, h.2⟩

/-- Lists that are made piece by piece, each piece of the first at least as long as that of the
second, are equal only piece by piece. -/
theorem flatMap_eq_iff {α β : Type} {f g : α → List β} : ∀ {l : List α},
    (∀ x ∈ l, (g x).length ≤ (f x).length) →
      (l.flatMap f = l.flatMap g ↔ ∀ x ∈ l, f x = g x)
  | [], _ => by simp
  | x :: l, h => by
    rw [List.forall_mem_cons] at h
    rw [List.flatMap_cons, List.flatMap_cons, List.forall_mem_cons, ← flatMap_eq_iff h.2]
    refine ⟨fun heq => ?_, fun heq => by rw [heq.1, heq.2]⟩
    have hrest : (l.flatMap g).length ≤ (l.flatMap f).length := by
      rw [List.length_flatMap, List.length_flatMap]
      exact List.sum_le_sum h.2
    have hlength := congrArg List.length heq
    rw [List.length_append, List.length_append] at hlength
    exact List.append_inj heq (by omega)

end Lib.Sql
