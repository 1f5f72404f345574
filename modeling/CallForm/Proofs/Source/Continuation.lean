import CallForm.Proofs.Source.Moves
import CallForm.Proofs.Token.Continuation

/-!
# Tokens that go on

How tokens are read as a program when more tokens come behind them, and when they are
replaced by tokens like them.  A token that cannot stand where it does still cannot when
others follow.  Whether a token can stand where it does depends only on the kinds of the
tokens, on the texts of parentheses and on how many calls are open.
-/

namespace CallForm.Source

/-- An unexpected token stays one, whatever comes behind it. -/
theorem programFrom_append_of_unexpectedToken {pos : Nat} {read : Stack} {ts : List Token}
    {text : String} {n : Int}
    (h : (programFrom pos read ts).result = .error (.unexpectedToken text n)) (more : List Token) :
  programFrom pos read (ts ++ more) = programFrom pos read ts
  := by
  induction read, ts using parsingInduction generalizing pos with
  | finish read => cases eq_unexpectedEnd_of_finish pos h
  | openEnd read =>
      rw [programFrom_openEnd] at h
      cases h
  | takes read front next rest hfront ih =>
      rw [programFrom_takes pos hfront] at h ⊢
      rw [List.append_assoc, programFrom_takes pos hfront, ih h]
  | refuses read front t rest ht =>
      rw [List.append_assoc, List.cons_append, programFrom_refuses pos ht,
        programFrom_refuses pos ht]

/-! ### Open calls -/

/-- How many calls are open. -/
def Stack.depth (s : Stack) : Nat :=
  s.calls.length

namespace Stack

theorem depth_push (e : Expr) (s : Stack) :
  (s.push e).depth = s.depth
  := by
  obtain ⟨body, _ | ⟨c, outer⟩⟩ := s <;> rfl

theorem depth_openCall (name : String) (s : Stack) :
  (s.openCall name).depth = s.depth + 1
  := rfl

theorem closeCall?_eq_none_iff {s : Stack} :
  s.closeCall? = none ↔ s.depth = 0
  := by
  obtain ⟨body, _ | ⟨c, outer⟩⟩ := s <;> simp [closeCall?, depth]

theorem depth_closeCall? {s closed : Stack} (h : s.closeCall? = some closed) :
  s.depth = closed.depth + 1
  := by
  obtain ⟨body, _ | ⟨c, outer⟩⟩ := s
  · cases h
  · obtain rfl := Option.some.inj h
    rw [depth_push]
    rfl

/-- As long as a call is open, one can be closed. -/
theorem exists_closeCall? {s : Stack} (h : s.depth ≠ 0) :
  ∃ closed, s.closeCall? = some closed
  := by
  apply Option.ne_none_iff_exists'.mp
  rw [Ne, closeCall?_eq_none_iff]
  apply h

end Stack

/-! ### Tokens like others -/

/-- A token like another one is of its kind. -/
theorem exists_of_alike {kind : TokenKind} {text : String} {t : Token}
    (h : Token.Alike ⟨kind, text⟩ t) :
  ∃ text', t = ⟨kind, text'⟩
  := by
  obtain ⟨kind', text'⟩ := t
  obtain ⟨rfl, _⟩ := h
  exact ⟨text', rfl⟩

/-- A parenthesis is like no other token. -/
theorem eq_of_alike_paren {text : String} {t : Token} (h : Token.Alike ⟨.paren, text⟩ t) :
  t = ⟨.paren, text⟩
  := by
  obtain ⟨text', rfl⟩ := exists_of_alike h
  obtain rfl := h.2 rfl
  rfl

/-- Tokens like some tokens and others behind them are tokens like the ones and tokens like
the others. -/
theorem exists_append_of_alike {ts us vs : List Token}
    (h : List.Forall₂ Token.Alike (ts ++ us) vs) :
  ∃ ts' us', List.Forall₂ Token.Alike ts ts' ∧ List.Forall₂ Token.Alike us us' ∧ vs = ts' ++ us'
  := by
  have htake := List.forall₂_take ts.length h
  have hdrop := List.forall₂_drop ts.length h
  rw [List.take_left] at htake
  rw [List.drop_left] at hdrop
  exact ⟨_, _, htake, hdrop, (List.take_append_drop ts.length vs).symm⟩

variable {read next read' : Stack} {front front' : List Token}

/-- If tokens are taken, so are tokens like them, with as many calls open. -/
theorem Takes.alike (h : Takes read front next) (halike : List.Forall₂ Token.Alike front front')
    (hdepth : read.depth = read'.depth) :
  ∃ next', Takes read' front' next' ∧ next.depth = next'.depth
  := by
  cases h with
  | number text =>
      obtain _ | ⟨hnumber, _ | _⟩ := halike
      obtain ⟨text', rfl⟩ := exists_of_alike hnumber
      use read'.push (.number text'), .number text'
      rw [Stack.depth_push, Stack.depth_push, hdepth]
  | string text =>
      obtain _ | ⟨hstring, _ | _⟩ := halike
      obtain ⟨text', rfl⟩ := exists_of_alike hstring
      use read'.push (.string text'), .string text'
      rw [Stack.depth_push, Stack.depth_push, hdepth]
  | opening name =>
      obtain _ | ⟨hopen, _ | ⟨hname, _ | _⟩⟩ := halike
      obtain rfl := eq_of_alike_paren hopen
      obtain ⟨name', rfl⟩ := exists_of_alike hname
      use read'.openCall name', .opening name'
      rw [Stack.depth_openCall, Stack.depth_openCall, hdepth]
  | closing hclosed =>
      obtain _ | ⟨hclose, _ | _⟩ := halike
      obtain rfl := eq_of_alike_paren hclose
      have hread := Stack.depth_closeCall? hclosed
      obtain ⟨closed', hclosed'⟩ := read'.exists_closeCall? (by omega)
      have hread' := Stack.depth_closeCall? hclosed'
      use closed', .closing hclosed'
      omega

/-- If a token cannot stand where it does, a token like it cannot stand behind tokens like
those, with as many calls open. -/
theorem Refuses.alike {t t' : Token} (h : Refuses read front t)
    (halike : List.Forall₂ Token.Alike front front') (ht : t.Alike t')
    (hdepth : read.depth = read'.depth) :
  Refuses read' front' t'
  := by
  cases h with
  | name text =>
      obtain _ | _ := halike
      obtain ⟨text', rfl⟩ := exists_of_alike ht
      apply Refuses.name
  | unnamed hkind =>
      obtain _ | ⟨hopen, _ | _⟩ := halike
      obtain rfl := eq_of_alike_paren hopen
      apply Refuses.unnamed
      rw [← ht.1]
      apply hkind
  | closing hclosed =>
      obtain _ | _ := halike
      obtain rfl := eq_of_alike_paren ht
      apply Refuses.closing
      rw [Stack.closeCall?_eq_none_iff] at hclosed ⊢
      rw [← hdepth, hclosed]
  | paren hopen hclose =>
      obtain _ | _ := halike
      obtain rfl := eq_of_alike_paren ht
      apply Refuses.paren hopen hclose

/-- Where a token is unexpected, the one in its place among tokens like those is, too. -/
theorem unexpectedToken_of_alike {pos : Nat} {ts ts' : List Token} {text : String} {n : Int}
    (h : (programFrom pos read ts).result = .error (.unexpectedToken text n))
    (halike : List.Forall₂ Token.Alike ts ts') (hdepth : read.depth = read'.depth) :
  ∃ text', (programFrom pos read' ts').result = .error (.unexpectedToken text' n)
  := by
  induction read, ts using parsingInduction generalizing pos read' ts' with
  | finish read => cases eq_unexpectedEnd_of_finish pos h
  | openEnd read =>
      rw [programFrom_openEnd] at h
      cases h
  | takes read front next rest hfront ih =>
      rw [programFrom_takes pos hfront] at h
      obtain ⟨front', rest', hfront', hrest', rfl⟩ := exists_append_of_alike halike
      obtain ⟨next', hnext, hdepth'⟩ := hfront.alike hfront' hdepth
      rw [programFrom_takes pos hnext, ← hfront'.length_eq]
      apply ih h hrest' hdepth'
  | refuses read front t rest ht =>
      rw [programFrom_refuses pos ht] at h
      obtain ⟨front', _, hfront', _ | ⟨halike', _⟩, rfl⟩ := exists_append_of_alike halike
      rw [programFrom_refuses pos (ht.alike hfront' halike' hdepth), ← hfront'.length_eq]
      obtain ⟨_, rfl⟩ := CompileError.unexpectedToken.inj (Except.error.inj h)
      exact ⟨_, rfl⟩

end CallForm.Source
