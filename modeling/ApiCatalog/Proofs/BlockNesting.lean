import ApiCatalog.Proofs.OpenBlocks
import ApiCatalog.Proofs.Tilings

/-!
Where blocks end. A block ends at the brace that matches the one it starts with, unless the block
reads other braces as something else and those do not match each other.
-/

set_option autoImplicit false

namespace ApiCatalog

section Matching

def balance : Nat → List Token → Option Nat
  | n, [] => some n
  | n, t :: rest =>
    match t.kind, n with
    | .openBrace, n => balance (n + 1) rest
    | .closeBrace, 0 => none
    | .closeBrace, n + 1 => balance n rest
    | _, n => balance n rest

/-- The braces among some tokens match each other, so that a brace before them matches the next
one after them. -/
def Balanced (tokens : List Token) : Prop := balance 0 tokens = some 0

instance (tokens : List Token) : Decidable (Balanced tokens) :=
  inferInstanceAs (Decidable (_ = _))

variable {t : Token} {n m : Nat} {xs ys : List Token}

theorem balance_open (brace : t.kind = .openBrace) : balance n (t :: xs) = balance (n + 1) xs := by
  simp [balance, brace]

theorem balance_close (brace : t.kind = .closeBrace) :
    balance (n + 1) (t :: xs) = balance n xs := by
  simp [balance, brace]

theorem balance_close_zero (brace : t.kind = .closeBrace) : balance 0 (t :: xs) = none := by
  simp [balance, brace]

theorem balance_other (noOpening : t.kind ≠ .openBrace) (noClosing : t.kind ≠ .closeBrace) :
    balance n (t :: xs) = balance n xs := by
  cases kind : t.kind with
  | openBrace => exact absurd kind noOpening
  | closeBrace => exact absurd kind noClosing
  | _ => simp [balance, kind]

theorem balance_cons_congr (same : ∀ n, balance n xs = balance n ys) :
    balance n (t :: xs) = balance n (t :: ys) := by
  by_cases opens : t.kind = .openBrace
  · rw [balance_open opens, balance_open opens, same]
  · by_cases closes : t.kind = .closeBrace
    · cases n with
      | zero => rw [balance_close_zero closes, balance_close_zero closes]
      | succ n => rw [balance_close closes, balance_close closes, same]
    · rw [balance_other opens closes, balance_other opens closes, same]

theorem balance_append : balance n (xs ++ ys) = (balance n xs).bind (balance · ys) := by
  induction xs generalizing n with
  | nil => rfl
  | cons t rest ih =>
    rw [List.cons_append]
    by_cases opens : t.kind = .openBrace
    · rw [balance_open opens, balance_open opens, ih]
    · by_cases closes : t.kind = .closeBrace
      · cases n with
        | zero => rw [balance_close_zero closes, balance_close_zero closes]; rfl
        | succ n => rw [balance_close closes, balance_close closes, ih]
      · rw [balance_other opens closes, balance_other opens closes, ih]

theorem balance_add (counted : balance n xs = some m) (k : Nat) :
    balance (n + k) xs = some (m + k) := by
  induction xs generalizing n with
  | nil =>
    cases counted
    rfl
  | cons t rest ih =>
    by_cases opens : t.kind = .openBrace
    · rw [balance_open opens] at counted ⊢
      rw [Nat.add_right_comm]
      exact ih counted
    · by_cases closes : t.kind = .closeBrace
      · cases n with
        | zero => rw [balance_close_zero closes] at counted; cases counted
        | succ n =>
          rw [balance_close closes] at counted
          rw [Nat.add_right_comm, balance_close closes]
          exact ih counted
      · rw [balance_other opens closes] at counted ⊢
        exact ih counted

theorem Balanced.balance (balanced : Balanced xs) (n : Nat) : balance n xs = some n := by
  have counted := balance_add balanced n
  simpa using counted

theorem Balanced.balance_group {opening closing : Token} (balanced : Balanced xs)
    (opens : opening.kind = .openBrace) (closes : closing.kind = .closeBrace) :
    ApiCatalog.balance n (opening :: (xs ++ closing :: ys)) = ApiCatalog.balance n ys := by
  rw [balance_open opens, balance_append, balanced.balance, Option.bind_some, balance_close closes]

end Matching

def DocumentReader.passesBrace (r : DocumentReader) : TokenKind → Bool
  | .openBrace => r.opens?.isNone
  | .closeBrace => r.keeps
  | _ => false

-- The blocks that are open after some tokens of a document, innermost first.
def openAfter (tokens : List Token) : List BlockKind :=
  match DocumentReader.start.run 1 tokens with
  | .ok r => r.openBlocks
  | .error _ => []

def isStray (before : List Token) (t : Token) : Bool :=
  match DocumentReader.start.run 1 before with
  | .ok r => r.passesBrace t.kind
  | .error _ => false

/-- Of tokens that follow others, the stray braces that are read while the open blocks are those of
`level`. -/
def strayIn (level : List BlockKind) : List Token → List Token → List Token
  | _, [] => []
  | before, t :: rest =>
    let later := strayIn level (before ++ [t]) rest
    if openAfter before = level ∧ isStray before t then t :: later else later

structure Accepted (tokens : List Token) : Prop where
  -- A setting looks at the literal of the token after it before it looks at the kind.
  proper : ∀ t ∈ tokens, t.kind = .closeBrace → t.literal ≠ "default"
  legible : ∃ r, DocumentReader.start.run 1 tokens = .ok r

/-- A block of a document: it starts with a brace that opens it, stays open, and ends with the
token after which the blocks around it are the open ones again. -/
structure Block (tokens : List Token) where
  before : List Token
  opening : Token
  inner : List Token
  closing : Token
  after : List Token
  tokens_eq : tokens = before ++ [opening] ++ inner ++ [closing] ++ after
  opened : ∃ kind, openAfter (before ++ [opening]) = kind :: openAfter before
  kept : ∀ part, part <+: inner →
    openAfter (before ++ [opening]) <:+ openAfter (before ++ [opening] ++ part)
  closed : openAfter (before ++ [opening] ++ inner ++ [closing]) = openAfter before

def Block.stray {tokens : List Token} (b : Block tokens) : List Token :=
  strayIn (openAfter (b.before ++ [b.opening])) (b.before ++ [b.opening]) b.inner

section Steps

theorem DocumentReader.run_append_ok {xs ys : List Token} {line : Nat} {r s : DocumentReader}
    (read : r.run line (xs ++ ys) = .ok s) :
    ∃ middle lastLine, r.run line xs = .ok middle ∧ middle.run lastLine ys = .ok s := by
  induction xs generalizing line r with
  | nil => exact ⟨r, line, rfl, read⟩
  | cons t rest ih =>
    obtain ⟨next, stepped, further⟩ := bind_eq_ok.1 read
    obtain ⟨middle, lastLine, first, second⟩ := ih further
    exact ⟨middle, lastLine, bind_eq_ok.2 ⟨next, stepped, first⟩, second⟩

theorem Accepted.of_append {xs ys : List Token} (accepted : Accepted (xs ++ ys)) : Accepted xs where
  proper t found := accepted.proper t (List.mem_append_left ys found)
  legible := by
    obtain ⟨r, read⟩ := accepted.legible
    obtain ⟨middle, -, first, -⟩ := DocumentReader.run_append_ok read
    exact ⟨middle, first⟩

inductive Change (before : List Token) (t : Token) : Prop
  | stays (same : openAfter (before ++ [t]) = openAfter before)
      (stray : t.kind = .openBrace ∨ t.kind = .closeBrace → isStray before t)
  | enters (block : BlockKind) (brace : t.kind = .openBrace)
      (opened : openAfter (before ++ [t]) = block :: openAfter before)
      (noStray : isStray before t = false)
  | leaves (block : BlockKind) (brace : t.kind = .closeBrace)
      (closed : openAfter before = block :: openAfter (before ++ [t]))

variable {before : List Token} {t : Token}

theorem Change.of_deeper (change : Change before t)
    (deeper : (openAfter before).length < (openAfter (before ++ [t])).length) :
    t.kind = .openBrace ∧ isStray before t = false := by
  cases change with
  | stays same => simp [same] at deeper
  | enters block brace opened noStray => exact ⟨brace, noStray⟩
  | leaves block brace closed =>
    rw [closed, List.length_cons] at deeper
    omega

theorem Change.of_shallower (change : Change before t)
    (shallower : (openAfter (before ++ [t])).length < (openAfter before).length) :
    t.kind = .closeBrace ∧ ∃ block, openAfter before = block :: openAfter (before ++ [t]) := by
  cases change with
  | stays same => simp [same] at shallower
  | enters block brace opened =>
    rw [opened, List.length_cons] at shallower
    omega
  | leaves block brace closed => exact ⟨brace, block, closed⟩

theorem Accepted.change (accepted : Accepted (before ++ [t])) : Change before t := by
  obtain ⟨s, read⟩ := accepted.legible
  obtain ⟨r, lastLine, earlier, last⟩ := DocumentReader.run_append_ok read
  obtain ⟨s', stepped, ended⟩ := bind_eq_ok.1 last
  cases ended
  have blocksBefore : openAfter before = r.openBlocks := by simp [openAfter, earlier]
  have blocksAfter : openAfter (before ++ [t]) = s.openBlocks := by simp [openAfter, read]
  have strays : isStray before t = r.passesBrace t.kind := by simp [isStray, earlier]
  have turn := DocumentReader.step_turn (accepted.proper t (by simp)) stepped
  -- The turn is one between the blocks that the reader has open, whatever else it has read.
  rw [← blocksBefore, ← blocksAfter] at turn
  generalize earlierBlocks : openAfter before = blocks at turn
  generalize laterBlocks : openAfter (before ++ [t]) = blocks' at turn
  cases turn with
  | stay opensNone closesNone =>
    refine .stays (laterBlocks.trans earlierBlocks.symm) ?_
    rintro (brace | brace)
    · simp [strays, brace, DocumentReader.passesBrace, opensNone brace]
    · simp [strays, brace, DocumentReader.passesBrace, closesNone brace]
  | enter brace opens =>
    refine .enters _ brace (by rw [laterBlocks, earlierBlocks]) ?_
    simp [strays, brace, DocumentReader.passesBrace, opens]
  | leave brace closes => exact .leaves _ brace (by rw [laterBlocks, earlierBlocks])

end Steps

section Nesting

theorem exists_closing {block : BlockKind} {base : List BlockKind} {mid rest : List Token}
    (accepted : Accepted (mid ++ rest)) (inside : block :: base <:+ openAfter mid)
    (outside : ¬ block :: base <:+ openAfter (mid ++ rest)) :
    ∃ inner closing after, rest = inner ++ closing :: after ∧
      (∀ part, part <+: inner → block :: base <:+ openAfter (mid ++ part)) ∧
      openAfter (mid ++ inner ++ [closing]) = base := by
  induction rest generalizing mid with
  | nil => exact absurd (by simpa using inside) outside
  | cons t rest ih =>
    rw [List.append_cons] at accepted outside
    -- The first token after which the block is not open any more closes it.
    by_cases still : block :: base <:+ openAfter (mid ++ [t])
    · obtain ⟨inner, closing, after, rfl, kept, closed⟩ := ih accepted still outside
      refine ⟨t :: inner, closing, after, rfl, fun part within => ?_, by simpa using closed⟩
      rcases List.prefix_cons_iff.1 within with rfl | ⟨part, rfl, within⟩
      · simpa using inside
      · simpa using kept part (by simpa using within)
    · refine ⟨[], t, rest, rfl, fun part within => ?_, ?_⟩
      · rw [List.prefix_nil.1 within]
        simpa using inside
      · cases accepted.of_append.change with
        | stays same => exact absurd (same ▸ inside) still
        | enters block' brace opened =>
          exact absurd (opened ▸ inside.trans (List.suffix_cons ..)) still
        | leaves block' brace closed =>
          rw [closed] at inside
          rcases List.suffix_cons_iff.1 inside with same | suffix
          · simpa using (List.cons.inj same).2.symm
          · exact absurd suffix still

theorem strayIn_append {level : List BlockKind} {mid xs : List Token}
    (elsewhere : ∀ part t, part ++ [t] <+: xs → openAfter (mid ++ part) ≠ level)
    (ys : List Token) :
    strayIn level mid (xs ++ ys) = strayIn level (mid ++ xs) ys := by
  induction xs generalizing mid with
  | nil => simp
  | cons t rest ih =>
    have here : openAfter mid ≠ level := by simpa using elsewhere [] t (by simp)
    have later : ∀ part u, part ++ [u] <+: rest → openAfter (mid ++ [t] ++ part) ≠ level := by
      intro part u within
      simpa using elsewhere (t :: part) u (by simpa using within)
    rw [List.cons_append, strayIn, if_neg (fun both => here both.1), ih later]
    simp

variable {tokens : List Token}

namespace Block

variable (b : Block tokens)

theorem opens (accepted : Accepted tokens) :
    b.opening.kind = .openBrace ∧ isStray b.before b.opening = false := by
  obtain ⟨kind, opened⟩ := b.opened
  have upTo : Accepted (b.before ++ [b.opening]) := by
    rw [b.tokens_eq] at accepted
    exact accepted.of_append.of_append.of_append
  exact upTo.change.of_deeper (by simp [opened])

theorem closes (accepted : Accepted tokens) :
    b.closing.kind = .closeBrace ∧
      openAfter (b.before ++ [b.opening] ++ b.inner) = openAfter (b.before ++ [b.opening]) := by
  obtain ⟨kind, opened⟩ := b.opened
  have upTo : Accepted (b.before ++ [b.opening] ++ b.inner ++ [b.closing]) := by
    rw [b.tokens_eq] at accepted
    exact accepted.of_append
  have inside := b.kept b.inner (List.prefix_refl _)
  have deep := inside.length_le
  rw [opened, List.length_cons] at deep
  obtain ⟨brace, block, left⟩ := upTo.change.of_shallower (b.closed ▸ deep)
  refine ⟨brace, (inside.eq_of_length ?_).symm⟩
  rw [left, b.closed, opened, List.length_cons, List.length_cons]

theorem balance_group (accepted : Accepted tokens) (balanced : Balanced b.inner) (n : Nat)
    (ys : List Token) :
    balance n (b.opening :: (b.inner ++ b.closing :: ys)) = balance n ys :=
  balanced.balance_group (b.opens accepted).1 (b.closes accepted).1

theorem strayIn_group (accepted : Accepted tokens) (ys : List Token) :
    strayIn (openAfter b.before) b.before (b.opening :: (b.inner ++ b.closing :: ys)) =
      strayIn (openAfter b.before) (b.before ++ [b.opening] ++ b.inner ++ [b.closing]) ys := by
  obtain ⟨kind, opened⟩ := b.opened
  -- Up to the last token of a block, at least one block more is open than around it.
  have elsewhere : ∀ part t, part ++ [t] <+: b.inner ++ [b.closing] →
      openAfter (b.before ++ [b.opening] ++ part) ≠ openAfter b.before := by
    intro part t within same
    have inside : part <+: b.inner := by
      rcases List.prefix_concat_iff.1 within with whole | within
      · exact (List.append_inj' whole rfl).1 ▸ List.prefix_refl part
      · exact (List.prefix_append part [t]).trans within
    have deep := (b.kept part inside).length_le
    rw [opened, same, List.length_cons] at deep
    omega
  have skipped := strayIn_append elsewhere ys
  rw [strayIn, (b.opens accepted).2]
  simpa using skipped

end Block

theorem exists_block (accepted : Accepted tokens) {before rest after : List Token} {opening : Token}
    {kind : BlockKind} (split : tokens = before ++ [opening] ++ rest ++ after)
    (opened : openAfter (before ++ [opening]) = kind :: openAfter before)
    (outside : ¬ kind :: openAfter before <:+ openAfter (before ++ [opening] ++ rest)) :
    ∃ b : Block tokens, b.before = before ∧ b.opening = opening ∧
      ∃ left, rest = b.inner ++ b.closing :: left := by
  have upTo : Accepted (before ++ [opening] ++ rest) := by
    rw [split] at accepted
    exact accepted.of_append
  obtain ⟨inner, closing, left, rfl, kept, closed⟩ :=
    exists_closing upTo (opened ▸ List.suffix_refl _) outside
  exact ⟨{
    before, opening, inner, closing
    after := left ++ after
    tokens_eq := by simp [split]
    opened := ⟨kind, opened⟩
    kept := opened ▸ kept
    closed }, rfl, rfl, left, rfl⟩

-- Where tokens start and end at one level, and the blocks among them end where they should, the
-- stray braces of that level are all that is left to match.
theorem balance_level (accepted : Accepted tokens) {mid part after : List Token}
    (split : tokens = mid ++ part ++ after)
    (kept : ∀ p, p <+: part → openAfter mid <:+ openAfter (mid ++ p))
    (back : openAfter (mid ++ part) = openAfter mid)
    (matched : ∀ b : Block tokens, b.inner.length < part.length → Balanced b.inner) (n : Nat) :
    balance n part = balance n (strayIn (openAfter mid) mid part) := by
  -- By recursion on the number of tokens: one token that stays at the level, or a whole block.
  match part with
  | [] => rfl
  | t :: rest =>
    rw [List.append_cons] at split back
    have here : Accepted (mid ++ [t]) := by
      rw [split] at accepted
      exact accepted.of_append.of_append
    cases here.change with
    | stays same stray =>
      have further (k : Nat) :
          balance k rest = balance k (strayIn (openAfter mid) (mid ++ [t]) rest) := by
        rw [← same]
        refine balance_level accepted split (fun p within => ?_) (back.trans same.symm)
          (fun b shorter => matched b (Nat.lt_succ_of_lt shorter)) k
        rw [same]
        simpa using kept (t :: p) (by simpa using within)
      by_cases isStray : isStray mid t
      · simp only [strayIn, isStray, and_self, if_true]
        exact balance_cons_congr further
      · have noBrace : t.kind ≠ .openBrace ∧ t.kind ≠ .closeBrace :=
          ⟨fun brace => isStray (stray (.inl brace)), fun brace => isStray (stray (.inr brace))⟩
        simp only [strayIn, isStray, Bool.false_eq_true, and_false, if_false]
        rw [balance_other noBrace.1 noBrace.2, further]
    | leaves block brace closed =>
      have held := (kept [t] (by simp)).length_le
      rw [closed, List.length_cons] at held
      omega
    | enters block brace opened noStray =>
      -- The block that starts here ends among these tokens, since they lead back to their level.
      obtain ⟨b, rfl, rfl, left, rfl⟩ := exists_block accepted split opened fun held => by
        have deep := held.length_le
        rw [back, List.length_cons] at deep
        omega
      have size : (b.opening :: (b.inner ++ b.closing :: left)).length =
          b.inner.length + left.length + 2 := by
        simp only [List.length_cons, List.length_append]
        omega
      have balanced := matched b (by omega)
      rw [b.balance_group accepted balanced, b.strayIn_group accepted, ← b.closed]
      refine balance_level accepted (by simpa using split) (fun p within => ?_) ?_ ?_ n
      · rw [b.closed]
        have further := kept (b.opening :: (b.inner ++ b.closing :: p)) (by simpa using within)
        simpa using further
      · rw [b.closed]
        simpa using back
      · exact fun b' shorter => matched b' (by omega)
termination_by part.length

theorem Block.balanced_iff (accepted : Accepted tokens) (b : Block tokens)
    (matched : ∀ inside : Block tokens, inside.inner.length < b.inner.length →
      Balanced inside.inner) :
    Balanced b.inner ↔ Balanced b.stray := by
  have split : tokens = b.before ++ [b.opening] ++ b.inner ++ ([b.closing] ++ b.after) := by
    rw [← List.append_assoc]
    exact b.tokens_eq
  have counts := balance_level accepted split b.kept (b.closes accepted).2 matched 0
  rw [Balanced, Balanced, Block.stray, counts]

theorem blocks_balanced_iff (accepted : Accepted tokens) :
    (∀ b : Block tokens, Balanced b.inner) ↔ ∀ b : Block tokens, Balanced b.stray := by
  constructor
  · intro matched b
    exact (b.balanced_iff accepted fun inside _ => matched inside).1 (matched b)
  · intro matched b
    -- Blocks inside of a block are shorter.
    induction size : b.inner.length using Nat.strong_induction_on generalizing b with
    | _ size' ih =>
      refine (b.balanced_iff accepted fun inside shorter => ?_).2 (matched b)
      exact ih _ (size ▸ shorter) inside rfl

end Nesting

namespace DocumentReader

theorem categoryPlace?_ne_import (doc : Option String) (keyword : String) :
    categoryPlace? doc keyword ≠ some .importReference := by
  unfold categoryPlace?
  split
  case h_4 =>
    unfold endpointPlace?
    split <;> nofun
  all_goals nofun

theorem place?_import {r : DocumentReader} {keyword : String}
    (found : r.place? keyword = some .importReference) : r.enclosing = [] := by
  unfold place? at found
  split at found
  · rename_i outside
    simpa using outside
  · exact absurd found (categoryPlace?_ne_import r.doc keyword)

theorem entry_import {r : DocumentReader} {t : Token}
    (waits : (r.entry t).place = .importReference) : (r.entry t).enclosing = [] := by
  revert waits
  unfold entry
  split
  · nofun
  · split
    · rename_i place found
      intro waits
      obtain rfl : place = .importReference := waits
      have outside : r.enclosing = [] := place?_import found
      exact outside
    · nofun
  · split <;> nofun
  · nofun

theorem step_import {lastLine : Nat} {r s : DocumentReader} {t : Token}
    (stepped : r.step lastLine t = .ok s) (waits : s.place = .importReference) :
    s.enclosing = [] := by
  obtain ⟨document, enclosing, nextId, doc, place⟩ := r
  cases place with
  | entries =>
    cases stepped
    exact entry_import waits
  | importReference | categoryName | categoryBasePath =>
    cases stepped
    cases waits
  | categoryOpening name =>
    obtain ⟨-, rfl⟩ := Token.of_require stepped
    cases waits
  | categoryLabel | categoryDescription =>
    simp only [step] at stepped
    split at stepped <;> cases stepped
    · cases waits
    · exact entry_import waits
  | config reader | api reader | socket kind reader | stream reader =>
    obtain ⟨progress, -, rfl⟩ := map_eq_ok.1 stepped
    cases progress <;> cases waits

theorem run_import {tokens : List Token} {line : Nat} {r s : DocumentReader}
    (outside : r.place = .importReference → r.enclosing = [])
    (read : r.run line tokens = .ok s) (waits : s.place = .importReference) :
    s.enclosing = [] := by
  induction tokens generalizing line r with
  | nil =>
    cases read
    exact outside waits
  | cons t rest ih =>
    obtain ⟨next, stepped, further⟩ := bind_eq_ok.1 read
    exact ih (step_import stepped) further

theorem openBlocks_of_finish {r : DocumentReader} {endLine : Nat} {d : Document}
    (outside : r.place = .importReference → r.enclosing = [])
    (finished : r.finish endLine = .ok d) : r.openBlocks = [] := by
  obtain ⟨document, enclosing, nextId, doc, place⟩ := r
  cases place with
  | entries =>
    cases enclosing with
    | nil => rfl
    | cons category outer => cases finished
  | importReference =>
    obtain rfl : enclosing = [] := outside rfl
    rfl
  | _ => cases finished

end DocumentReader

section Texts

theorem Spells.closeBrace_eq {literal spelling rest : List Char}
    (spells : Spells .closeBrace literal spelling rest) : literal = ['\x7d'] := by
  cases spells with
  | mark isMark =>
    unfold punctuation? at isMark
    split at isMark
    case h_2 => rfl
    all_goals cases isMark

theorem accepted_of_ofText {text : String} {d : Document} (parsed : Document.ofText text = .ok d) :
    let tokens := (TokenStream.ofText text).tokens
    Accepted tokens ∧ openAfter tokens = [] := by
  intro tokens
  obtain ⟨r, read, finished⟩ := bind_eq_ok.1 parsed
  refine ⟨⟨fun t found brace => ?_, r, read⟩, ?_⟩
  · obtain ⟨spelling, rest, spells⟩ := spells_of_mem found
    rw [brace] at spells
    rintro isDefault
    have literal := spells.closeBrace_eq
    rw [isDefault] at literal
    exact absurd literal (by decide)
  · rw [openAfter, read]
    have outside := DocumentReader.run_import (fun _ => rfl) read
    exact DocumentReader.openBlocks_of_finish outside finished

end Texts

/-- Where the blocks of a text end. Each block that is opened is closed by a brace, and it is the
matching one for all blocks if and only if the braces match that each block reads as something
else. -/
theorem Document.ofText_blocks_matched_iff {text : String} {d : Document}
    (parsed : Document.ofText text = .ok d) :
    let tokens := (TokenStream.ofText text).tokens
    (∀ before opening rest kind, tokens = before ++ opening :: rest →
      openAfter (before ++ [opening]) = kind :: openAfter before →
      ∃ b : Block tokens, b.before = before ∧ b.opening = opening) ∧
    (∀ b : Block tokens, b.opening.kind = .openBrace ∧ b.closing.kind = .closeBrace) ∧
    ((∀ b : Block tokens, Balanced b.inner) ↔ ∀ b : Block tokens, Balanced b.stray) := by
  intro tokens
  obtain ⟨accepted, ended⟩ := accepted_of_ofText parsed
  refine ⟨fun before opening rest kind split opened => ?_, fun b => ?_, ?_⟩
  · have outside : ¬ kind :: openAfter before <:+ openAfter (before ++ [opening] ++ rest) := by
      rw [← List.append_cons, ← split, ended]
      simp
    have whole : tokens = before ++ [opening] ++ rest ++ [] := by simpa using split
    obtain ⟨b, starts, opens, -⟩ := exists_block accepted whole opened outside
    exact ⟨b, starts, opens⟩
  · exact ⟨(b.opens accepted).1, (b.closes accepted).1⟩
  · exact blocks_balanced_iff accepted

theorem strayIn_eq_nil {level : List BlockKind} {mid part : List Token}
    (clean : ∀ p t, p ++ [t] <+: mid ++ part → isStray p t = false) :
    strayIn level mid part = [] := by
  induction part generalizing mid with
  | nil => rfl
  | cons t rest ih =>
    have here : isStray mid t = false := clean mid t (by simp)
    rw [List.append_cons] at clean
    simp [strayIn, here, ih clean]

def nestedText : String :=
  "category c \x7b name api /a \x7b get \x7b request \x7b x \x7b y \x7d \x7d \x7d \x7d \x7d"

-- A label may be missing, and so may the type of a field.
theorem Document.ofText_blocks_matched_nested :
    (∃ d, Document.ofText nestedText = .ok d) ∧
      ∀ b : Block (TokenStream.ofText nestedText).tokens, Balanced b.inner := by
  obtain ⟨d, parsed⟩ : ∃ d, Document.ofText nestedText = .ok d :=
    exists_of_isOk (by decide +kernel)
  have clean : ∀ p ∈ (TokenStream.ofText nestedText).tokens.inits, ∀ t ∈ p.getLast?,
      isStray p.dropLast t = false := by decide +kernel
  refine ⟨⟨d, parsed⟩, (Document.ofText_blocks_matched_iff parsed).2.2.2 fun b => ?_⟩
  have none : b.stray = [] := strayIn_eq_nil fun p t within => by
    have found : p ++ [t] <+: (TokenStream.ofText nestedText).tokens := by
      rw [b.tokens_eq, List.append_assoc _ [b.closing]]
      exact within.trans (List.prefix_append _ _)
    simpa using clean (p ++ [t]) ((List.mem_inits _ _).2 found) t (by simp)
  rw [none]
  rfl

def swallowingText : String :=
  "config \x7b cors \x7d api /b \x7b get \x7b \x7d \x7d"

-- The value of a setting is missing, and the brace after it is taken for the value. The
-- settings then go on up to a brace of the statement that follows them.
theorem Document.ofText_blocks_swallowed :
    (∃ d, Document.ofText swallowingText = .ok d) ∧
      ∃ b : Block (TokenStream.ofText swallowingText).tokens, ¬ Balanced b.inner := by
  let tokens := (TokenStream.ofText swallowingText).tokens
  let opening : Token := ⟨.openBrace, "\x7b", 1⟩
  let inner := (tokens.drop 2).take 7
  have kept : ∀ part ∈ inner.inits, openAfter (tokens.take 1 ++ [opening]) <:+
      openAfter (tokens.take 1 ++ [opening] ++ part) := by decide +kernel
  have unmatched : ¬ Balanced inner := by decide +kernel
  refine ⟨exists_of_isOk (by decide +kernel), {
    before := tokens.take 1
    opening
    inner
    closing := ⟨.closeBrace, "\x7d", 1⟩
    after := tokens.drop 10
    tokens_eq := by decide +kernel
    opened := ⟨.config, by decide +kernel⟩
    kept := fun part within => kept part ((List.mem_inits _ _).2 within)
    closed := by decide +kernel }, unmatched⟩

end ApiCatalog
