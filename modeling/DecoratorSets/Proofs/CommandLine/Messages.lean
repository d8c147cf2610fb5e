import DecoratorSets.CommandLine.Page
import DecoratorSets.Proofs.CommandLine.Writing
import DecoratorSets.Proofs.Names

/-!
# Messages that can be shown

A message may have no text: a tag that closes nothing, or parameters of a tag that cannot be
read, end a command instead. A command that reports what it has written does not run into
this because of what it reports, as long as there are no brackets in it: its messages open
and close one colour and have the path behind it (`Page.exists_messageLines_green`).

The colour need not be looked up for this. A word that says nothing about letters is either
the name of a colour or no style, and is its own normal form in both cases
(`TextStyle.normalForm_of_isColorWord`).
-/

namespace DecoratorSets

/-! ## Styles of one word -/

/-- **A word can be the name of a colour**: a single word in lower case that has no other
meaning in a style. -/
structure TextStyle.IsColorWord (word : String) : Prop where
  stripped : String.ofList (Blank.strip Blank.isBlank word.toList) = word
  single : (Blank.words word.toList).map String.ofList = [word]
  lower : lowerCase word = word
  other : word ∉ ["none", "on", "not", "link"]
  letters : LetterForm.ofWord? word = none
  color : ColorName.inBrackets? "color(" word.toList = none
  levels : ColorName.inBrackets? "rgb(" word.toList = none

namespace TextStyle

variable {word : String}

/-- Such a word is the name of a colour or no style. -/
theorem IsColorWord.read_eq (h : IsColorWord word) :
    ColorName.read word = .ok word ∨ ColorName.read word = .error .unreadable := by
  unfold ColorName.read
  rw [h.lower]
  dsimp only
  split
  · exact Or.inl rfl
  · rw [h.color, h.levels]
    exact Or.inr rfl

/-- It is read as the one or the other. -/
theorem IsColorWord.readWords_eq (h : IsColorWord word) :
    readWords plain [word] = .ok { plain with color := some word }
      ∨ readWords plain [word] = .error .unreadable := by
  have hother := h.other
  simp only [List.mem_cons, List.not_mem_nil, or_false, not_or] at hother
  obtain ⟨-, hon, hnot, hlink⟩ := hother
  have hread : readWords plain [word]
      = ColorName.read word >>= fun color => .ok { plain with color := some color } := by
    unfold readWords
    rw [h.lower]
    split
    · exact absurd rfl hon
    · exact absurd rfl hnot
    · exact absurd rfl hlink
    · exact absurd rfl hon
    · exact absurd rfl hnot
    · exact absurd rfl hlink
    · rw [h.letters]
      rfl
  rw [hread]
  rcases h.read_eq with hcolor | hcolor
  · exact Or.inl (by rw [hcolor]; rfl)
  · exact Or.inr (by rw [hcolor]; rfl)

/-- **A word that can be the name of a colour is its own normal form**, whether it is one or
not. -/
theorem normalForm_of_isColorWord (h : IsColorWord word) : normalForm word = .ok word := by
  have hnone : word ≠ "none" := fun heq => h.other (heq ▸ List.mem_cons_self)
  unfold normalForm
  rw [h.stripped, h.single]
  dsimp only
  rw [if_neg hnone]
  rcases h.readWords_eq with hread | hread
  · rw [hread]
    rfl
  · rw [hread]
    exact congrArg Except.ok h.lower

/-- Green is one, as far as this goes. -/
theorem isColorWord_green : IsColorWord "green" where
  stripped := by decide
  single := by decide
  lower := by decide
  other := by decide
  letters := by decide
  color := by decide
  levels := by decide

end TextStyle

/-! ## A message with one colour -/

namespace Markup

/-- A tag behind text without a backslash is a tag. -/
theorem tagPieces_of_not_mem {before inside : List Char} (h : '\\' ∉ before) :
    tagPieces before inside = textPiece before ++ [.tag (tagOf inside)] := by
  have hslashes : before.reverse.takeWhile (fun c => decide (c = '\\')) = [] := by
    cases hreverse : before.reverse with
    | nil => rfl
    | cons c cs =>
      have hc : c ∈ before := List.mem_reverse.mp (hreverse ▸ List.mem_cons_self)
      refine List.takeWhile_cons_of_neg fun heq => h ?_
      exact of_decide_eq_true heq ▸ hc
  unfold tagPieces
  rw [hslashes]
  simp [textPiece]

/-- A tag is cut off at the first closing bracket. -/
theorem cutTag?_append (inside : List Char) (hbegins : inside.head?.any beginsTag = true)
    (hinside : ']' ∉ inside) (behind : List Char) :
    cutTag? (inside ++ ']' :: behind) = some (inside, behind) := by
  have hhead : (inside ++ ']' :: behind).head?.any beginsTag = true := by
    cases inside with
    | nil => cases hbegins
    | cons c cs => exact hbegins
  unfold cutTag?
  rw [cutAt_append_cons hinside, hhead]
  rfl

/-- The pieces of text in a colour and text behind it. -/
theorem pieces_green {label rest : List Char} (hbracket : '[' ∉ label)
    (hslash : '\\' ∉ label) (hrest : '[' ∉ rest) :
    pieces ("[green]".toList ++ (label ++ ("[/green]".toList ++ rest)))
      = .tag ⟨"green", none⟩ :: (textPiece label ++ .tag ⟨"/green", none⟩ :: textPiece rest) := by
  have hparts : partsAt '[' ("[green]".toList ++ (label ++ ("[/green]".toList ++ rest)))
      = [[], "green]".toList ++ label, "/green]".toList ++ rest] := by
    have hfirst : '[' ∉ "green]".toList ++ label := by simpa using hbracket
    have hsecond : '[' ∉ "/green]".toList ++ rest := by simpa using hrest
    have hcut := partsAt_append_cons '[' ("green]".toList ++ label) ("/green]".toList ++ rest)
    rw [partsAt_of_not_mem hfirst, partsAt_of_not_mem hsecond, List.append_assoc] at hcut
    show partsAt '[' ('[' :: ("green]".toList ++ (label ++ '[' :: ("/green]".toList ++ rest)))) = _
    rw [partsAt, if_pos rfl, hcut]
    rfl
  have hopening : cutTag? ("green]".toList ++ label) = some ("green".toList, label) :=
    cutTag?_append "green".toList (by decide) (by decide) label
  have hclosing : cutTag? ("/green]".toList ++ rest) = some ("/green".toList, rest) :=
    cutTag?_append "/green".toList (by decide) (by decide) rest
  unfold pieces
  rw [hparts]
  dsimp only
  rw [piecesFrom, hopening]
  dsimp only
  rw [piecesFrom, hclosing]
  dsimp only
  rw [piecesFrom, tagPieces_of_not_mem List.not_mem_nil, tagPieces_of_not_mem hslash]
  simp [textPiece, tagOf, cutAt]

/-- Text in front of pieces that can be shown. -/
theorem exists_showPieces_text (cs : List Char) {opened : List Tag} {rest : List Piece}
    (h : ∃ shown, showPieces opened rest = .ok shown) :
    ∃ shown, showPieces opened (textPiece cs ++ rest) = .ok shown := by
  obtain ⟨shown, h⟩ := h
  unfold textPiece
  split
  · exact ⟨shown, h⟩
  · refine ⟨shownText cs ++ shown, ?_⟩
    rw [List.singleton_append, showPieces, h]
    rfl

/-- A tag that opens a style. -/
theorem showPieces_open {opened : List Tag} (t : Tag) {style : String} {rest : List Piece}
    (hname : t.name.toList.head? ≠ some '/') (hstyle : styleName t.name = .ok style) :
    showPieces opened (.tag t :: rest) = showPieces ({ t with name := style } :: opened) rest := by
  rw [showPieces]
  split
  · rename_i name heq
    rw [heq] at hname
    exact absurd rfl hname
  · rw [hstyle]
    rfl

/-- A tag that closes a style. -/
theorem showPieces_close {opened others : List Tag} {t closed : Tag} {name : String}
    {rest : List Piece} (hname : t.name.toList = '/' :: name.toList)
    (hclose : close name opened = .ok (closed, others)) (hclosed : checkClosed closed = .ok ()) :
    showPieces opened (.tag t :: rest) = showPieces others rest := by
  rw [showPieces, hname]
  show (close (String.ofList name.toList) opened >>= fun found =>
    checkClosed found.1 >>= fun _ => showPieces found.2 rest) = showPieces others rest
  rw [String.ofList_toList, hclose]
  show (checkClosed closed >>= fun _ => showPieces others rest) = showPieces others rest
  rw [hclosed]
  rfl

/-- **A message in one colour can be shown**, with text behind it. -/
theorem exists_shown_green {label rest : List Char} (hbracket : '[' ∉ label)
    (hslash : '\\' ∉ label) (hrest : '[' ∉ rest) :
    ∃ cs, shown ("[green]".toList ++ (label ++ ("[/green]".toList ++ rest))) = .ok cs := by
  have hstyle : styleName "green" = .ok "green" := by
    unfold styleName
    rw [TextStyle.normalForm_of_isColorWord TextStyle.isColorWord_green]
    rfl
  have hclose : close "green" [⟨"green", none⟩] = .ok (⟨"green", none⟩, []) := by
    unfold close
    dsimp only
    rw [TextStyle.isColorWord_green.stripped, if_neg (by decide), hstyle]
    rfl
  have hempty : ∃ cs, showPieces [] [] = .ok cs := ⟨[], by rw [showPieces]⟩
  have hbehind : ∃ cs, showPieces [] (textPiece rest) = .ok cs := by
    have hshown := exists_showPieces_text rest hempty
    rwa [List.append_nil] at hshown
  have hclosing : showPieces [⟨"green", none⟩] (.tag ⟨"/green", none⟩ :: textPiece rest)
      = showPieces [] (textPiece rest) :=
    showPieces_close rfl hclose rfl
  rw [← hclosing] at hbehind
  unfold shown
  rw [pieces_green hbracket hslash hrest, showPieces_open ⟨"green", none⟩ (by decide) hstyle]
  exact exists_showPieces_text label hbehind

end Markup

/-- **So can its lines be printed.** -/
theorem Page.exists_messageLines_green {label rest : String} (hbracket : '[' ∉ label.toList)
    (hslash : '\\' ∉ label.toList) (hrest : '[' ∉ rest.toList) :
    ∃ lines, messageLines ("[green]" ++ label ++ "[/green]" ++ rest) = .ok lines := by
  obtain ⟨cs, hcs⟩ := Markup.exists_shown_green hbracket hslash hrest
  unfold messageLines
  simp only [String.toList_append, List.append_assoc]
  rw [hcs]
  exact ⟨_, rfl⟩

end DecoratorSets
