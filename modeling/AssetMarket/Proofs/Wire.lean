/-
**Reading what was written, and nothing that was cut short.**

A reader and a writer of the byte format belong together if the reader takes exactly the bytes that
were written from the front, whatever follows them, and if it runs out of input on every piece of
them that is not the whole.  Both properties pass from the parts of a format to the format, since a
piece of two byte strings ends either within the first or within the second.

Main definitions:

* `Wire.Reads` — certain bytes are those of a value;
* `Wire.Yields` — whatever is read has a property.

Main results:

* `Wire.Reads.bind`, `Wire.Yields.bind` — one reader after another;
* `Wire.reads_text`, `Wire.reads_list`, `Wire.reads_option` — the readers against the writers;
* `Wire.yields_text`, `Wire.yields_list` — no length is beyond four bytes.
-/

import AssetMarket.Wire

set_option relaxedAutoImplicit false
set_option autoImplicit false

namespace AssetMarket

/-- Bytes that are read as a text are the bytes of that text. -/
theorem Utf8.ofText_of_decode {bs : Bytes} {s : String} (h : decode bs = .ok s) :
    Bytes.ofText s = bs := by
  unfold decode at h
  split at h
  next t ht =>
    cases h
    rw [String.fromUTF8?] at ht
    split at ht
    · cases ht
      rfl
    · cases ht
  · cases h

namespace Wire

variable {α β : Type}

/-! ### One reader after another -/

theorem bind_of_ok {r : Reader α} {f : α → Reader β} {bs rest : Bytes} {x : α}
    (h : r bs = .ok (x, rest)) : (r >>= f) bs = f x rest := by
  show Except.bind (r bs) _ = _
  rw [h]
  rfl

theorem bind_of_error {r : Reader α} {f : α → Reader β} {bs : Bytes} {e : Error}
    (h : r bs = .error e) : (r >>= f) bs = .error e := by
  show Except.bind (r bs) _ = _
  rw [h]
  rfl

theorem exists_of_bind {r : Reader α} {f : α → Reader β} {bs rest : Bytes} {y : β}
    (h : (r >>= f) bs = .ok (y, rest)) :
    ∃ x mid, r bs = .ok (x, mid) ∧ f x mid = .ok (y, rest) := by
  cases hr : r bs with
  | error e =>
      rw [bind_of_error hr] at h
      cases h
  | ok result => exact ⟨result.1, result.2, rfl, (bind_of_ok hr).symm.trans h⟩

/-- Certain bytes are those of a value for a reader: it takes them from the front of all that begins
with them, and it runs out of input on each of their pieces. -/
structure Reads (r : Reader α) (bs : Bytes) (x : α) : Prop where
  whole : ∀ rest, r (bs ++ rest) = .ok (x, rest)
  cut : ∀ front back, front ++ back = bs → back ≠ [] → r front = .error .endOfInput

theorem reads_pure (x : α) : Reads (pure x) [] x where
  whole _ := rfl
  cut _ _ h hback := absurd (List.append_eq_nil_iff.1 h).2 hback

theorem Reads.bind {r : Reader α} {f : α → Reader β} {bs bs' : Bytes} {x : α} {y : β}
    (h : Reads r bs x) (h' : Reads (f x) bs' y) : Reads (r >>= f) (bs ++ bs') y where
  whole rest := by
    rw [List.append_assoc, bind_of_ok (h.whole _), h'.whole]
  cut front back hfront hback := by
    rcases List.append_eq_append_iff.1 hfront with ⟨mid, hbs, hmid⟩ | ⟨mid, rfl, hbs'⟩
    · by_cases hnil : mid = []
      · -- the first reader gets all it wants, and nothing is left for the second
        subst hnil
        rw [List.append_nil] at hbs
        have hfirst := h.whole []
        rw [List.append_nil, hbs] at hfirst
        rw [bind_of_ok hfirst]
        exact h'.cut [] back hmid hback
      · exact bind_of_error (h.cut front mid hbs.symm hnil)
    · rw [bind_of_ok (h.whole mid)]
      exact h'.cut mid back hbs'.symm hback

/-- The second reader takes nothing. -/
theorem Reads.bind_nil {r : Reader α} {f : α → Reader β} {bs : Bytes} {x : α} {y : β}
    (h : Reads r bs x) (h' : Reads (f x) [] y) : Reads (r >>= f) bs y := by
  have hbind := h.bind h'
  rwa [List.append_nil] at hbind

theorem Reads.map {r : Reader α} {bs : Bytes} {x : α} (h : Reads r bs x) (f : α → β) :
    Reads (do return f (← r)) bs (f x) :=
  Reads.bind_nil h (reads_pure (f x))

/-- Whatever a reader reads has a property. -/
def Yields (r : Reader α) (P : α → Prop) : Prop := ∀ bs x rest, r bs = .ok (x, rest) → P x

theorem yields_pure {P : α → Prop} {x : α} (h : P x) : Yields (pure x) P := by
  intro bs y rest hy
  cases hy
  exact h

theorem Yields.bind {r : Reader α} {f : α → Reader β} {P : α → Prop} {Q : β → Prop}
    (h : Yields r P) (h' : ∀ x, P x → Yields (f x) Q) : Yields (r >>= f) Q := by
  intro bs y rest hy
  obtain ⟨x, mid, hx, hy⟩ := exists_of_bind hy
  exact h' x (h bs x mid hx) mid y rest hy

/-- Nothing is asked of what is read first. -/
theorem yields_bind {r : Reader α} {f : α → Reader β} {Q : β → Prop}
    (h : ∀ x, Yields (f x) Q) : Yields (r >>= f) Q :=
  Yields.bind (P := fun _ => True) (fun _ _ _ _ => trivial) fun x _ => h x

/-! ### Readers against writers -/

theorem reads_take (bs : Bytes) : Reads (take bs.length) bs bs where
  whole rest := by
    rw [take, if_neg (by simp), List.take_left, List.drop_left]
  cut front back h hback := by
    have hlen := congrArg List.length h
    have hpos := List.length_pos_iff.2 hback
    rw [List.length_append] at hlen
    rw [take, if_pos (by omega)]

theorem reads_byte (b : UInt8) : Reads byte [b] b where
  whole _ := rfl
  cut front back h hback := by
    cases front with
    | nil => rfl
    | cons c front =>
        rw [List.cons_append, List.cons.injEq, List.append_eq_nil_iff] at h
        exact absurd h.2.2 hback

theorem reads_nat {width n : Nat} (h : n < 256 ^ width) :
    Reads (nat width) (Bytes.littleEndian width n) n := by
  have htake := reads_take (Bytes.littleEndian width n)
  rw [Bytes.length_littleEndian] at htake
  have hnat := htake.map Bytes.number
  rwa [Bytes.number_littleEndian width n h] at hnat

theorem reads_address (a : Address) : Reads address a.bytes a := by
  have htake := reads_take a.bytes
  rw [a.length_bytes] at htake
  have haddress := htake.map Bytes.address
  have hself := Bytes.address_bytes_append a []
  rw [List.append_nil] at hself
  rwa [hself] at haddress

theorem reads_bool (b : Bool) : Reads bool (ofBool b) b := by
  cases b with
  | false => exact (reads_byte 0).bind (reads_pure false)
  | true => exact (reads_byte 1).bind (reads_pure true)

theorem reads_text {s : String} (h : (Bytes.ofText s).length < 256 ^ 4) :
    Reads text (ofText s) s := by
  refine (reads_nat h).bind ((reads_take _).bind_nil ?_)
  rw [Utf8.decode_ofText]
  exact reads_pure s

theorem reads_repeated {item : Reader α} {write : α → Bytes} {xs : List α}
    (h : ∀ x ∈ xs, Reads item (write x) x) :
    Reads (repeated item xs.length) (xs.flatMap write) xs := by
  induction xs with
  | nil => exact reads_pure []
  | cons x xs ih =>
      rw [List.forall_mem_cons] at h
      exact h.1.bind ((ih h.2).map (x :: ·))

theorem reads_list {item : Reader α} {write : α → Bytes} {xs : List α}
    (h : ∀ x ∈ xs, Reads item (write x) x) (hlen : xs.length < 256 ^ 4) :
    Reads (list item) (ofList write xs) xs :=
  (reads_nat hlen).bind (reads_repeated h)

theorem reads_option {some? : Reader α} {write : α → Bytes} {part : Option α}
    (h : ∀ x ∈ part, Reads some? (write x) x) :
    Reads (option some?) (ofOption write part) part := by
  cases part with
  | none => exact (reads_byte 0).bind (reads_pure none)
  | some x => exact (reads_byte 1).bind ((h x rfl).map some)

/-! ### What is read -/

theorem yields_take (count : Nat) : Yields (take count) (·.length = count) := by
  intro bs x rest h
  rw [take] at h
  split at h
  next => cases h
  next hlen =>
    cases h
    exact List.length_take_of_le (Nat.not_lt.1 hlen)

theorem yields_nat (width : Nat) : Yields (nat width) (· < 256 ^ width) := by
  refine (yields_take width).bind fun bs hbs => yields_pure ?_
  rw [← hbs]
  exact Bytes.number_lt bs

theorem yields_text : Yields text fun s => (Bytes.ofText s).length < 256 ^ 4 := by
  refine (yields_nat 4).bind fun n hn => (yields_take n).bind fun bs hbs => ?_
  cases hs : Utf8.decode bs with
  | error fault => exact fun _ _ _ h => nomatch h
  | ok s =>
      refine yields_pure ?_
      rw [Utf8.ofText_of_decode hs, hbs]
      exact hn

theorem yields_repeated (item : Reader α) (count : Nat) :
    Yields (repeated item count) (·.length = count) := by
  induction count with
  | zero => exact yields_pure rfl
  | succ count ih =>
      refine yields_bind fun x => ih.bind fun xs hxs => yields_pure ?_
      rw [List.length_cons, hxs]

theorem yields_list (item : Reader α) : Yields (list item) (·.length < 256 ^ 4) :=
  (yields_nat 4).bind fun n hn bs xs rest h => by
    rw [yields_repeated item n bs xs rest h]
    exact hn

theorem yields_option {some? : Reader α} {P : α → Prop} (h : Yields some? P) :
    Yields (option some?) fun part => ∀ x ∈ part, P x := by
  refine yields_bind fun b => ?_
  split
  · exact yields_pure fun x hx => nomatch hx
  split
  · exact h.bind fun x hx => yields_pure fun y hy => by cases hy; exact hx
  · exact fun _ _ _ h => nomatch h

end Wire

end AssetMarket
