import ApiCatalog.Proofs.Spellings
import ApiCatalog.Token.Lexeme

/-!
The tokens of a text cover it: between their spellings there is nothing but blanks.
-/

set_option autoImplicit false

namespace ApiCatalog

open Text

structure Tile where
  gap : List Char
  token : Token
  spelling : List Char

def Tile.chars (t : Tile) : List Char := t.gap ++ t.spelling

-- The tiles one after another, with what stands after the last one.
def tiledText (tiles : List Tile) (last : List Char) : List Char :=
  tiles.flatMap Tile.chars ++ last

-- A tile can stand where a line has been reached and some text follows.
structure Tile.Fits (t : Tile) (line : Nat) (rest : List Char) : Prop where
  blank : ∀ c ∈ t.gap, isBlank c
  held : t.spelling ≠ []
  spells : Spells t.token.kind t.token.literal.toList t.spelling rest
  line : t.token.line = line + t.gap.count '\n'

/-- A text that starts on a line is cut up into tiles. -/
structure Tiling (line : Nat) (text : List Char) (tiles : List Tile) (last : List Char) : Prop where
  text_eq : text = tiledText tiles last
  blank : ∀ c ∈ last, isBlank c
  fits : ∀ before tile after, tiles = before ++ tile :: after →
    tile.Fits (line + (before.flatMap Tile.chars).count '\n') (tiledText after last)

section Scanning

variable {c : Char} {cs tail spelling rest : List Char} {kind : TokenKind} {literal : List Char}

theorem scanFrom_end (ended : cs.dropWhile isBlank = []) (line : Nat) :
    scanFrom line cs = ([], line + (cs.takeWhile isBlank).count '\n') := by
  rw [scanFrom]
  split
  · rfl
  next starts => simp [ended] at starts

theorem scanFrom_nil (line : Nat) : scanFrom line [] = ([], line) := scanFrom_end rfl line

theorem scanFrom_next (starts : cs.dropWhile isBlank = c :: rest) (line : Nat) :
    scanFrom line cs =
      let start := line + (cs.takeWhile isBlank).count '\n'
      let found := lexeme c rest
      (scanFrom (start + (c :: found.tail).count '\n') (rest.drop found.tail.length)).map
        (⟨found.kind, String.ofList found.literal, start⟩ :: ·) id := by
  rw [scanFrom]
  split
  next ended => simp [ended] at starts
  next starts' =>
    cases starts.symm.trans starts'
    rfl

theorem scanFrom_blank (blank : isBlank c) (line : Nat) (rest : List Char) :
    scanFrom line (c :: rest) = scanFrom (line + [c].count '\n') rest := by
  have drops : (c :: rest).dropWhile isBlank = rest.dropWhile isBlank := by simp [blank]
  have counts : line + ((c :: rest).takeWhile isBlank).count '\n' =
      line + [c].count '\n' + (rest.takeWhile isBlank).count '\n' := by
    rw [List.takeWhile_cons, if_pos blank, ← List.singleton_append, List.count_append,
      Nat.add_assoc]
  cases left : rest.dropWhile isBlank with
  | nil => rw [scanFrom_end left, scanFrom_end (drops.trans left), counts]
  | cons d more => rw [scanFrom_next left, scanFrom_next (drops.trans left), counts]

theorem scanFrom_token (inked : isBlank c = false)
    (found : lexeme c (tail ++ rest) = ⟨kind, literal, tail⟩) (line : Nat) :
    scanFrom line (c :: (tail ++ rest)) =
      (scanFrom (line + (c :: tail).count '\n') rest).map
        (⟨kind, String.ofList literal, line⟩ :: ·) id := by
  have starts : (c :: (tail ++ rest)).dropWhile isBlank = c :: (tail ++ rest) := by simp [inked]
  rw [scanFrom_next starts]
  simp [inked, found]

theorem scanFrom_gap {gap : List Char} (blank : ∀ c ∈ gap, isBlank c) (line : Nat)
    (rest : List Char) :
    scanFrom line (gap ++ rest) = scanFrom (line + gap.count '\n') rest := by
  induction gap generalizing line with
  | nil => rfl
  | cons c more ih =>
    obtain ⟨first, others⟩ := List.forall_mem_cons.1 blank
    rw [List.cons_append, scanFrom_blank first, ih others, Nat.add_assoc, ← List.count_append]
    rfl

theorem scanFrom_spells (spells : Spells kind literal spelling rest) (line : Nat) :
    scanFrom line (spelling ++ rest) =
      (scanFrom (line + spelling.count '\n') rest).map
        (⟨kind, String.ofList literal, line⟩ :: ·) id := by
  obtain ⟨c, tail, rfl, inked, found⟩ := spells.lexeme_eq
  exact scanFrom_token inked found line

end Scanning

section Tilings

variable {line : Nat} {text rest last : List Char} {tile : Tile} {tiles : List Tile}

theorem tiledText_cons : tiledText (tile :: tiles) last = tile.chars ++ tiledText tiles last := by
  simp [tiledText]

theorem Tiling.nil (blank : ∀ c ∈ last, isBlank c) : Tiling line last [] last where
  text_eq := rfl
  blank := blank
  fits := fun before tile after split => by simp at split

theorem Tiling.cons (fits : tile.Fits line rest)
    (tiling : Tiling (line + tile.chars.count '\n') rest tiles last) :
    Tiling line (tile.chars ++ rest) (tile :: tiles) last where
  text_eq := by rw [tiledText_cons, ← tiling.text_eq]
  blank := tiling.blank
  fits := by
    intro before other after split
    cases before with
    | nil =>
      obtain ⟨rfl, rfl⟩ := List.cons.inj split
      rw [← tiling.text_eq]
      exact fits
    | cons first before =>
      obtain ⟨rfl, others⟩ := List.cons.inj split
      have later := tiling.fits before other after others
      rwa [Nat.add_assoc, ← List.count_append, ← List.flatMap_cons] at later

theorem Tiling.uncons (tiling : Tiling line text (tile :: tiles) last) :
    text = tile.chars ++ tiledText tiles last ∧ tile.Fits line (tiledText tiles last) ∧
      Tiling (line + tile.chars.count '\n') (tiledText tiles last) tiles last := by
  refine ⟨by rw [tiling.text_eq, tiledText_cons], by simpa using tiling.fits [] tile tiles rfl, rfl,
    tiling.blank, fun before other after split => ?_⟩
  have later := tiling.fits (tile :: before) other after (by rw [split]; rfl)
  rwa [List.flatMap_cons, List.count_append, ← Nat.add_assoc] at later

end Tilings

theorem Tiling.scanFrom_eq {line : Nat} {text last : List Char} {tiles : List Tile}
    (tiling : Tiling line text tiles last) :
    scanFrom line text = (tiles.map Tile.token, line + text.count '\n') := by
  -- On the tiles. The gap of the first one moves the line on, and its spelling gives its token.
  induction tiles generalizing line text with
  | nil =>
    have all : text = last ++ [] := by simpa [tiledText] using tiling.text_eq
    rw [all, scanFrom_gap tiling.blank, scanFrom_nil, List.append_nil]
    rfl
  | cons tile rest ih =>
    obtain ⟨rfl, fits, later⟩ := tiling.uncons
    have lines : line + tile.chars.count '\n' = tile.token.line + tile.spelling.count '\n' := by
      rw [Tile.chars, List.count_append, fits.line, Nat.add_assoc]
    have scanned : scanFrom line (tile.chars ++ tiledText rest last) =
        (scanFrom (line + tile.chars.count '\n') (tiledText rest last)).map
          (tile.token :: ·) id := by
      rw [lines, Tile.chars, List.append_assoc, scanFrom_gap fits.blank, ← fits.line,
        scanFrom_spells fits.spells, String.ofList_toList]
    rw [scanned, ih later, List.count_append, ← Nat.add_assoc]
    rfl

theorem exists_tiling (line : Nat) (cs : List Char) : ∃ tiles last, Tiling line cs tiles last := by
  obtain ⟨gap, after, split, blank, ends⟩ := exists_run isBlank cs
  cases after with
  | nil =>
    obtain rfl : cs = gap := by simpa using split
    exact ⟨[], cs, .nil blank⟩
  | cons c more =>
    obtain ⟨kind, literal, tail, rest, rfl, spells⟩ := exists_spelling (ends c rfl) more
    let tile : Tile := ⟨gap, ⟨kind, String.ofList literal, line + gap.count '\n'⟩, c :: tail⟩
    have fits : tile.Fits line rest :=
      ⟨blank, List.cons_ne_nil c tail, by simpa [tile] using spells, rfl⟩
    have whole : cs = tile.chars ++ rest := by simpa [tile, Tile.chars] using split
    -- A spelling is not empty, so less is left than there was.
    have shorter : rest.length < cs.length := by simp [split]; omega
    obtain ⟨tiles, last, tiling⟩ := exists_tiling (line + tile.chars.count '\n') rest
    exact ⟨tile :: tiles, last, whole ▸ tiling.cons fits⟩
termination_by cs.length

theorem spells_of_mem {line : Nat} {cs : List Char} {t : Token} (found : t ∈ (scanFrom line cs).1) :
    ∃ spelling rest, Spells t.kind t.literal.toList spelling rest := by
  obtain ⟨tiles, last, tiling⟩ := exists_tiling line cs
  rw [tiling.scanFrom_eq] at found
  obtain ⟨tile, held, rfl⟩ := List.mem_map.1 found
  obtain ⟨before, after, split⟩ := List.append_of_mem held
  exact ⟨tile.spelling, _, (tiling.fits before tile after split).spells⟩

namespace Cursor

theorem next_of_end {s : Cursor} (ended : s.rest.dropWhile isBlank = []) :
    s.next = (⟨.endOfText, "", (scanFrom s.line s.rest).2⟩, ⟨(scanFrom s.line s.rest).2, []⟩) := by
  rw [scanFrom_end ended, next, ended]

theorem scanFrom_of_next {s : Cursor} {c : Char} {rest : List Char}
    (starts : s.rest.dropWhile isBlank = c :: rest) :
    scanFrom s.line s.rest =
      (scanFrom s.next.2.line s.next.2.rest).map (s.next.1 :: ·) id := by
  rw [scanFrom_next starts, next, starts]

theorem call_eq (s : Cursor) (n : Nat) :
    s.call n = (scanFrom s.line s.rest).1.getD n ⟨.endOfText, "", (scanFrom s.line s.rest).2⟩ := by
  -- On the calls. A cursor at the end of the text stays there, on the last line.
  induction n generalizing s with
  | zero =>
    cases left : s.rest.dropWhile isBlank with
    | nil => simp [call, next_of_end left, scanFrom_end left]
    | cons c rest => simp [call, scanFrom_of_next left, Prod.map]
  | succ n ih =>
    rw [call, ih]
    cases left : s.rest.dropWhile isBlank with
    | nil => simp [next_of_end left, scanFrom_end left, scanFrom_nil]
    | cons c rest => simp [scanFrom_of_next left, Prod.map]

end Cursor

/-- The tokens of a text are those that the text can be cut up into, and there is only one way to
cut it. Asked for one by one they come in this order, and after them always the end of the text. -/
theorem TokenStream.ofText_tiles (text : String) :
    let stream := TokenStream.ofText text
    (∀ tokens, tokens = stream.tokens ↔
      ∃ tiles last, Tiling 1 text.toList tiles last ∧ tiles.map Tile.token = tokens) ∧
    (∀ t ∈ stream.tokens, t.kind ≠ .endOfText) ∧
    stream.endLine = 1 + text.toList.count '\n' ∧
    ∀ n, (Cursor.ofText text).call n = stream.tokens.getD n stream.terminator := by
  intro stream
  obtain ⟨tiles, last, tiling⟩ := exists_tiling 1 text.toList
  have scanned := tiling.scanFrom_eq
  refine ⟨fun tokens => ⟨?_, ?_⟩, fun t found => ?_, ?_, fun n => ?_⟩
  · rintro rfl
    exact ⟨tiles, last, tiling, by simp [stream, TokenStream.ofText, scanned]⟩
  · rintro ⟨others, last', tiling', rfl⟩
    simp [stream, TokenStream.ofText, tiling'.scanFrom_eq]
  · obtain ⟨spelling, rest, spells⟩ := spells_of_mem found
    exact spells.kind_ne_endOfText
  · simp [stream, TokenStream.ofText, scanned]
  · exact Cursor.call_eq _ n

-- A doc comment on two lines reads as one, and what follows it is on the second line.
def commentedText : String := "/** All\n * of it */ get \x7b\n"

def commentTile : Tile := ⟨[], ⟨.docComment, "All of it", 1⟩, "/** All\n * of it */".toList⟩

def wordTile : Tile := ⟨[' '], ⟨.identifier, "get", 2⟩, "get".toList⟩

def braceTile : Tile := ⟨[' '], ⟨.openBrace, "\x7b", 2⟩, "\x7b".toList⟩

theorem TokenStream.ofText_tiles_commented :
    Tiling 1 commentedText.toList [commentTile, wordTile, braceTile] ['\n'] ∧
      (TokenStream.ofText commentedText).tokens =
        [commentTile, wordTile, braceTile].map Tile.token := by
  have literal : docLiteral " All\n * of it ".toList = "All of it".toList := by decide
  have comment : Spells .docComment (docLiteral " All\n * of it ".toList)
      "/** All\n * of it */".toList " get \x7b\n".toList := .docComment (by decide) (.inl rfl)
  have word : Spells .identifier "get".toList "get".toList " \x7b\n".toList :=
    .identifier (by decide) (fun c isHead => by cases isHead; decide) (by decide)
  have first : commentTile.Fits 1 " get \x7b\n".toList :=
    ⟨List.forall_mem_nil _, by decide, literal ▸ comment, rfl⟩
  have second : wordTile.Fits 2 " \x7b\n".toList :=
    ⟨List.forall_mem_singleton.2 rfl, by decide, word, rfl⟩
  have third : braceTile.Fits 2 "\n".toList :=
    ⟨List.forall_mem_singleton.2 rfl, by decide, .mark rfl, rfl⟩
  have tiling : Tiling 1 commentedText.toList [commentTile, wordTile, braceTile] ['\n'] :=
    Tiling.cons first (Tiling.cons second (Tiling.cons third
      (Tiling.nil (List.forall_mem_singleton.2 rfl))))
  exact ⟨tiling, (((ofText_tiles commentedText).1 _).2 ⟨_, _, tiling, rfl⟩).symm⟩

end ApiCatalog
