/-
# What readers give

A reader gives only values with a property if that holds of the value of every reading.  The
property follows the reader: through a sequence it goes step by step, and through the members of
a record it is an invariant of the record under construction.

Of the numbers that are read it holds that they fit their 64 bits, so every value that is read as
the data of a reply is one that a desk can keep.
-/

import SupportDesk.Json.Message
import SupportDesk.Proofs.Json.Canonical

namespace SupportDesk.Json.Reader

variable {α β σ : Type} {P : α → Prop} {Q : β → Prop} {r : Reader α}

/-- Every value that a reader gives has a property. -/
def Yields (r : Reader α) (P : α → Prop) : Prop :=
  ∀ input a rest, SupportDesk.Reads r input a rest → P a

theorem yields_true (r : Reader α) : Yields r fun _ => True := fun _ _ _ _ => True.intro

theorem Yields.mono {P' : α → Prop} (h : Yields r P) (himp : ∀ a, P a → P' a) : Yields r P' :=
  fun input a rest hread => himp a (h input a rest hread)

theorem yields_pure {a : α} (h : P a) : Yields (pure a) P := by
  rintro input a rest ⟨⟩
  exact h

theorem yields_fail {e : DecodeError} : Yields (fail e) P := nofun

theorem Yields.bind {f : α → Reader β} (h : Yields r P) (hf : ∀ a, P a → Yields (f a) Q) :
    Yields (r >>= f) Q := by
  intro input b rest hread
  rw [SupportDesk.Reads, StateT.run_bind] at hread
  cases hr : r.run input with
  | error e =>
      rw [hr] at hread
      cases hread
  | ok result =>
      rw [hr] at hread
      exact hf result.1 (h input result.1 result.2 hr) result.2 b rest hread

/-- What is read first does not matter. -/
theorem yields_bind {f : α → Reader β} (hf : ∀ a, Yields (f a) Q) : Yields (r >>= f) Q :=
  (yields_true r).bind fun a _ => hf a

theorem Yields.map {f : α → β} (h : Yields r fun a => Q (f a)) : Yields (f <$> r) Q := by
  rw [map_eq_pure_bind]
  exact h.bind fun a ha => yields_pure ha

theorem yields_ite {c : Prop} [Decidable c] {r' : Reader α} (ht : c → Yields r P)
    (he : ¬ c → Yields r' P) : Yields (if c then r else r') P := by
  split
  next hc => exact ht hc
  next hc => exact he hc

theorem yields_lift {e : Except DecodeError α} (h : ∀ a, e = .ok a → P a) :
    Yields (liftM e) P := by
  intro input a rest hread
  cases e with
  | error e => cases hread
  | ok b =>
      obtain rfl : b = a := congrArg Prod.fst (Except.ok.inj hread)
      exact h b rfl

/-- What is given for a whole text has the property, too. -/
theorem Yields.of_readWhole (h : Yields r P) {input : String} {a : α}
    (hread : readWhole r input = .ok a) : P a := by
  unfold readWhole readAll readFront at hread
  cases hrun : StateT.run (do
      let a ← r
      skipSpace
      if (← get).isEmpty then return a else fail .malformed) input.toUTF8.toList with
  | error e =>
      rw [hrun] at hread
      cases hread
  | ok result =>
      rw [hrun] at hread
      obtain rfl : result.1 = a := Except.ok.inj hread
      have hwhole : Yields (do
          let a ← r
          skipSpace
          if (← get).isEmpty then return a else fail .malformed) P :=
        h.bind fun a ha => yields_bind fun _ => yields_bind fun _ =>
          yields_ite (fun _ => yields_pure ha) fun _ => yields_fail
      exact hwhole _ _ _ hrun

/-! ## Numbers -/

theorem yields_toReal (negative : Bool) (significand : Nat) (exponent : Int) :
    Yields (toReal negative significand exponent) JsonNumber.IsInRange := by
  unfold toReal
  split
  next => exact yields_pure (.inr ⟨_, rfl⟩)
  next => exact yields_fail

theorem yields_readExponent (negative : Bool) (significand : Nat) (exponent : Int) :
    Yields (readExponent negative significand exponent) JsonNumber.IsInRange := by
  unfold readExponent
  refine yields_bind fun sign => ?_
  -- Whatever the sign, the digits and their number, what is given comes from `toReal`.
  dsimp only
  repeat'
    first
    | exact yields_toReal _ _ _
    | exact yields_fail
    | refine yields_bind fun _ => ?_
    | split

theorem yields_readFraction (negative : Bool) (s : Significand) :
    Yields (readFraction negative s) JsonNumber.IsInRange := by
  have hexponent (n : Nat) (e : Int) :
      Yields (readOptionalExponent negative n e) JsonNumber.IsInRange := by
    refine yields_bind fun _ => ?_
    split
    next => exact yields_bind fun _ => yields_readExponent _ _ _
    next => exact yields_bind fun _ => yields_readExponent _ _ _
    next => exact yields_toReal _ _ _
  refine yields_bind fun digits => ?_
  exact yields_ite (fun _ => yields_bind fun _ => hexponent _ _) fun _ => hexponent _ _

/-- A significand fits 64 bits, whatever digits are added. -/
theorem push_le {s : Significand} (hs : s.value ≤ maxNatural) (digits : List Char) :
    (s.push digits).value ≤ maxNatural := by
  unfold Significand.push
  induction digits generalizing s with
  | nil => exact hs
  | cons c digits ih =>
      rw [List.foldl_cons]
      apply ih
      simp only [Bool.or_eq_true, decide_eq_true_eq]
      split_ifs with hfull
      · exact hs
      · exact not_lt.mp (not_or.mp hfull).2

theorem yields_wholeNumber {negative : Bool} {s : Significand} (hs : s.value ≤ maxNatural) :
    Yields (wholeNumber negative s) JsonNumber.IsInRange := by
  unfold wholeNumber
  refine yields_ite (fun _ => yields_toReal _ _ _) fun _ => ?_
  refine yields_ite (fun _ => yields_pure (.inl hs)) fun _ => ?_
  refine yields_ite (fun _ => yields_toReal _ _ _) fun hsmall => ?_
  refine yields_pure (.inl ?_)
  have := not_or.mp hsmall
  exact ⟨Nat.pos_of_ne_zero this.1, not_lt.mp this.2⟩

/-- Every number that is read is real or fits its 64 bits. -/
theorem yields_readNumber : Yields readNumber JsonNumber.IsInRange := by
  have hunsigned (negative : Bool) : Yields (readUnsigned negative) JsonNumber.IsInRange := by
    refine yields_bind fun digits => ?_
    split
    next => exact yields_fail
    next => exact yields_fail
    next =>
      refine yields_bind fun next => ?_
      split
      next => exact yields_bind fun _ => yields_readFraction _ _
      next => exact yields_bind fun _ => yields_readExponent _ _ _
      next => exact yields_bind fun _ => yields_readExponent _ _ _
      next => exact yields_wholeNumber (push_le (Nat.zero_le _) digits)
  refine yields_bind fun next => ?_
  split
  next => exact yields_bind fun _ => hunsigned true
  next => exact hunsigned false

/-! ## Arrays, objects and whole values -/

theorem yields_readItemsAux {item : Reader α} (h : Yields item P) (fuel : Nat) (first : Bool) :
    Yields (readItemsAux item fuel first) fun items => ∀ a ∈ items, P a := by
  induction fuel generalizing first with
  | zero => exact yields_fail
  | succ fuel ih =>
      have hitems : Yields (do
          let v ← item
          return v :: (← readItemsAux item fuel false)) fun items => ∀ a ∈ items, P a :=
        h.bind fun a ha => (ih false).bind fun items hitems =>
          yields_pure (List.forall_mem_cons.mpr ⟨ha, hitems⟩)
      have hnext : Yields (do
          let c ← peekToken
          if c = ']' then fail .malformed
          let v ← item
          return v :: (← readItemsAux item fuel false)) fun items => ∀ a ∈ items, P a :=
        yields_bind fun _ => yields_ite (fun _ => yields_bind fun _ => hitems) fun _ => hitems
      refine yields_bind fun _ => yields_ite (fun _ => ?_) fun _ => ?_
      · exact yields_bind fun _ => yields_pure (List.forall_mem_nil _)
      · exact yields_ite (fun _ => yields_bind fun _ => hnext) fun _ => hnext

/-- What every member keeps, all of them keep. -/
theorem yields_foldMembersAux {step : σ → Reader σ} {I : σ → Prop}
    (h : ∀ acc, I acc → Yields (step acc) I) (fuel : Nat) (first : Bool) {acc : σ} (hacc : I acc) :
    Yields (foldMembersAux step fuel first acc) I := by
  induction fuel generalizing first acc with
  | zero => exact yields_fail
  | succ fuel ih =>
      refine yields_bind fun _ => yields_ite (fun _ => ?_) fun _ => yields_pure hacc
      exact (h acc hacc).bind fun next hnext => ih false hnext

/-- After its opening bracket an array has only numbers that fit, if its items do. -/
theorem yields_array {value : Reader Json} (h : Yields value (Everywhere IsInRange)) :
    Yields (do
      advance
      return Json.array (← readItems value)) (Everywhere IsInRange) :=
  yields_bind fun _ => (yields_bind fun _ => yields_readItemsAux h _ _).bind
    fun _ hitems => yields_pure (.array True.intro hitems)

/-- After its first key an object has only numbers that fit, if its values do. -/
theorem yields_object {value : Reader Json} (h : Yields value (Everywhere IsInRange))
    (k : String) :
    Yields (do
      let v ← value
      let members ← foldMembersAux (fun acc => do
        let k ← readKey readString
        let v ← value
        return (k, v) :: acc) ((← get).length + 1) false [(k, v)]
      return Json.object members.reverse) (Everywhere IsInRange) := by
  refine h.bind fun v hv => yields_bind fun _ => ?_
  refine (yields_foldMembersAux (I := fun acc => ∀ m ∈ acc, m.2.Everywhere IsInRange)
    (fun acc hacc => yields_bind fun k => h.bind fun v hv => ?_) _ _ ?_).bind ?_
  · exact yields_pure (List.forall_mem_cons.mpr ⟨hv, hacc⟩)
  · exact List.forall_mem_singleton.mpr hv
  · exact fun members hmembers =>
      yields_pure (.object True.intro fun m hm => hmembers m (List.mem_reverse.mp hm))

/-- An object that stands for a text has only numbers that fit, if the value of the text does. -/
theorem yields_embedded {read : String → Except DecodeError Json} {s : String}
    (h : ∀ v, read s = .ok v → v.Everywhere IsInRange) :
    Yields (do
      let v ← read s
      expectToken '}'
      return v) (Everywhere IsInRange) :=
  (yields_lift h).bind fun _ hv => yields_bind fun _ => yields_pure hv

theorem yields_readValueWith {embedded : Option (String → Except DecodeError Json)}
    (h : ∀ read ∈ embedded, ∀ s v, read s = .ok v → v.Everywhere IsInRange) (depth : Nat) :
    Yields (readValueWith embedded depth) (Everywhere IsInRange) := by
  induction depth with
  | zero => exact yields_fail
  | succ depth ih =>
      have hscalar {v : Json} (hv : v.IsScalar) (hrange : v.IsInRange) :
          Yields (pure v) (Everywhere IsInRange) := yields_pure (.scalar hv hrange)
      have harray := yields_array ih
      refine yields_bind fun c => ?_
      split
      next => exact yields_bind fun _ => hscalar True.intro True.intro
      next => exact yields_bind fun _ => hscalar True.intro True.intro
      next => exact yields_bind fun _ => hscalar True.intro True.intro
      next => exact yields_bind fun _ => hscalar True.intro True.intro
      next => exact yields_ite (fun _ => yields_bind fun _ => harray) fun _ => harray
      next =>
        refine yields_ite (fun _ => yields_bind fun _ => ?_) fun _ => ?_
        all_goals
          refine yields_bind fun _ => yields_bind fun _ => yields_ite (fun _ => ?_) fun _ =>
            yields_pure (.object True.intro (List.forall_mem_nil _))
          refine yields_bind fun k => ?_
          split
          next read _ =>
            have hread (s : String) := yields_embedded (h read rfl s)
            refine yields_bind fun _ => yields_ite (fun _ => yields_bind fun _ => ?_) fun _ => ?_
            all_goals exact yields_bind hread
          next => exact yields_object ih k
      next =>
        refine yields_ite (fun _ => ?_) fun _ => yields_fail
        exact yields_readNumber.bind fun n hn => hscalar True.intro hn

/-- Every number in a text that is read fits. -/
theorem everywhere_of_parseAux (fuel : Nat) {input : String} {v : Json}
    (h : parseAux fuel input = .ok v) : v.Everywhere IsInRange := by
  induction fuel generalizing input v with
  | zero => cases h
  | succ fuel ih =>
      refine (yields_readValueWith ?_ depthLimit).of_readWhole h
      rintro read ⟨⟩ s v hread
      exact ih hread

theorem yields_readValue (depth : Nat) :
    Yields (readValue depth) fun v => v.Everywhere IsInRange := by
  refine yields_bind fun cs => yields_readValueWith ?_ depth
  rintro read ⟨⟩ s v hread
  exact everywhere_of_parseAux _ hread

/-! ## Records -/

/-- A refused value gives nothing. -/
theorem yields_refuse : Yields (refuse : Reader α) P := by
  refine yields_bind fun c => ?_
  split
  all_goals
    repeat'
      first
      | exact yields_fail
      | refine yields_bind fun _ => ?_
      | split

variable {fields : List (Field σ)} {I : σ → Prop} {start : σ}

/-- What every field keeps, all the fields of an array keep. -/
theorem yields_readPositional (h : ∀ f ∈ fields, ∀ acc, I acc → Yields (f.read acc) I)
    (first : Bool) {acc : σ} (hacc : I acc) : Yields (readPositional fields first acc) I := by
  induction fields generalizing first acc with
  | nil => exact yields_bind fun _ => yields_pure hacc
  | cons f fields ih =>
      have hfield : Yields (do
          let c ← peekToken
          if c = ']' then fail .malformed
          readPositional fields false (← f.read acc)) I := by
        have hrest : Yields (do readPositional fields false (← f.read acc)) I :=
          (h f List.mem_cons_self acc hacc).bind fun next hnext =>
            ih (fun g hg => h g (List.mem_cons_of_mem _ hg)) false hnext
        exact yields_bind fun _ => yields_ite (fun _ => yields_bind fun _ => hrest) fun _ => hrest
      have hcomma : Yields (do
          if ¬ first then expectToken ','
          let c ← peekToken
          if c = ']' then fail .malformed
          readPositional fields false (← f.read acc)) I :=
        yields_ite (fun _ => yields_bind fun _ => hfield) fun _ => hfield
      refine yields_bind fun _ => yields_ite (fun _ => ?_) fun _ => hcomma
      exact yields_ite (fun _ => yields_bind fun _ => yields_pure hacc) fun _ =>
        yields_bind fun _ => hcomma

/-- What every field keeps, a record keeps. -/
theorem yields_record (h : ∀ f ∈ fields, ∀ acc, I acc → Yields (f.read acc) I) (hstart : I start) :
    Yields (record fields start) I := by
  have hmember (acc : List String × σ) (hacc : I acc.2) :
      Yields (readMember fields acc) fun acc => I acc.2 := by
    refine yields_bind fun k => ?_
    split
    next f hf =>
      have hread : Yields (do
          skipColon
          return (f.name :: acc.1, ← f.read acc.2)) fun acc => I acc.2 :=
        yields_bind fun _ => (h f (List.mem_of_find?_eq_some hf) acc.2 hacc).bind fun next hnext =>
          yields_pure hnext
      exact yields_ite (fun _ => yields_bind fun _ => hread) fun _ => hread
    next => exact yields_bind fun _ => yields_bind fun _ => yields_pure hacc
  refine yields_bind fun c => ?_
  split
  next => exact yields_bind fun _ => yields_readPositional h true hstart
  next =>
    refine yields_bind fun _ => (yields_bind fun cs => ?_).bind fun acc hacc => yields_pure hacc
    exact yields_foldMembersAux (I := fun acc : List String × σ => I acc.2) hmember _ true hstart
  next => exact yields_refuse

/-! ## Replies -/

theorem yields_optional (h : Yields r P) : Yields (optional r) fun o => ∀ a ∈ o, P a := by
  refine yields_bind fun _ => yields_bind fun _ => yields_ite (fun _ => yields_bind fun _ => ?_)
    fun _ => h.bind fun a ha => ?_
  · exact yields_pure nofun
  · refine yields_pure ?_
    rintro _ ⟨⟩
    exact ha

/-- The data of a reply that is read is such as a desk keeps. -/
theorem yields_reply : Yields reply fun r => ∀ data ∈ r.data, data.IsKept := by
  have hfields : ∀ f ∈ replyFields, ∀ acc : ReplyDraft,
      (∀ data ∈ acc.data.join, data.Everywhere IsInRange) →
        Yields (f.read acc) fun next => ∀ data ∈ next.data.join, data.Everywhere IsInRange := by
    intro f hf acc hacc
    simp only [replyFields, List.mem_cons, List.not_mem_nil, or_false] at hf
    rcases hf with rfl | rfl | rfl | rfl
    · exact Yields.map ((yields_true _).mono fun _ _ => hacc)
    · exact Yields.map ((yields_optional (yields_readValue _)).mono fun _ h => h)
    · exact Yields.map ((yields_true _).mono fun _ _ => hacc)
    · exact Yields.map ((yields_true _).mono fun _ _ => hacc)
  refine (yields_record hfields (by simp)).bind fun d hd => ?_
  refine yields_bind fun status => yields_bind fun version => yields_pure ?_
  intro data hdata
  obtain ⟨v, hv, rfl⟩ := Option.mem_map.mp hdata
  exact isKept_canonical (hd v hv)

end SupportDesk.Json.Reader
