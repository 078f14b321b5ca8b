import SecurityKey.Proofs.Cbor.Reading

/-!
# Written forms are unambiguous

No written form is another one with something after it: where two values were written, each with a rest, the values and
the rests are the same. This holds for bignums too, although those are read as integers.
-/

namespace SecurityKey.Cbor

variable {major major' m n : Nat} {x y : Bytes}

/-! ## Parts -/

theorem head_append_inj (hm : m < 2 ^ 64) (hn : n < 2 ^ 64) (small : major < 8)
    (same : head major m ++ x = head major n ++ y) : m = n ∧ x = y := by
  have left := readHead_head small hm x
  rw [same, readHead_head small hn y] at left
  simp only [Option.some.injEq, Prod.mk.injEq, Argument.number.injEq] at left
  exact ⟨left.1.2.2.symm, left.2.symm⟩

theorem string_append_inj {a b : Bytes} (ha : a.length < 2 ^ 64) (hb : b.length < 2 ^ 64) (small : major < 8)
    (same : (head major a.length ++ a) ++ x = (head major b.length ++ b) ++ y) : a = b ∧ x = y := by
  rw [List.append_assoc, List.append_assoc] at same
  obtain ⟨length, rest⟩ := head_append_inj ha hb small same
  exact List.append_inj rest length

theorem flatMap_append_inj {α : Type} {write : α → Bytes} {items others : List α}
    (each : ∀ a ∈ items, ∀ b ∈ others, ∀ x y, write a ++ x = write b ++ y → a = b ∧ x = y)
    (length : items.length = others.length) (same : items.flatMap write ++ x = others.flatMap write ++ y) :
    items = others ∧ x = y := by
  induction items generalizing others with
  | nil =>
      cases others with
      | nil => exact ⟨rfl, by simpa using same⟩
      | cons b others => simp at length
  | cons a items ih =>
      cases others with
      | nil => simp at length
      | cons b others =>
          simp only [List.flatMap_cons, List.append_assoc] at same
          obtain ⟨rfl, later⟩ := each a (by simp) b (by simp) _ _ same
          obtain ⟨rfl, rest⟩ :=
            ih (fun a ha b hb => each a (by simp [ha]) b (by simp [hb])) (by simpa using length) later
          exact ⟨rfl, rest⟩

/-! ## Values -/

variable {v w : Value}

theorem Sized.major_eq (hv : Sized v) (hw : Sized w) (same : v.write ++ x = w.write ++ y) : v.major = w.major := by
  obtain ⟨_, _, _, left⟩ := hv.exists_readHead x
  obtain ⟨_, _, _, right⟩ := hw.exists_readHead y
  rw [same, right] at left
  simp only [Option.some.injEq, Prod.mk.injEq] at left
  exact left.1.1.symm

/-- An item without parts of its own is decided by its head. -/
theorem exists_readSimple (h : v.major = 7) : ∃ information argument, readSimple information argument = pure v ∧
    ∀ rest, readHead (v.write ++ rest) = some ((7, information, argument), rest) := by
  cases v with
  | bool b =>
      cases b with
      | false => exact ⟨20, _, rfl, fun rest => readHead_small (by decide : 7 < 8) (by decide : 20 < 24) rest⟩
      | true => exact ⟨21, _, rfl, fun rest => readHead_small (by decide : 7 < 8) (by decide : 21 < 24) rest⟩
  | null => exact ⟨22, _, rfl, readHead_null⟩
  | float bits =>
      obtain ⟨information, width, n, form, written, read⟩ := writeFloat_eq bits
      refine ⟨information, _, read, fun rest => ?_⟩
      rw [Value.write, written, List.cons_append]
      exact readHead_wide (by decide) form rest
  | _ => simp [Value.major] at h

theorem simple_append_inj (hv : v.major = 7) (hw : w.major = 7) (same : v.write ++ x = w.write ++ y) :
    v = w ∧ x = y := by
  obtain ⟨information, argument, read, left⟩ := exists_readSimple hv
  obtain ⟨information', argument', read', right⟩ := exists_readSimple hw
  have heads := left x
  rw [same, right y] at heads
  simp only [Option.some.injEq, Prod.mk.injEq, true_and] at heads
  obtain ⟨⟨rfl, rfl⟩, rest⟩ := heads
  have values := congrFun (read.symm.trans read') []
  exact ⟨congrArg Prod.fst (Option.some.inj values), rest.symm⟩

/-- Two written forms with something after them are the same only if the values and what follows are. -/
theorem Sized.write_append_inj (hv : Sized v) (hw : Sized w) (same : v.write ++ x = w.write ++ y) :
    v = w ∧ x = y := by
  -- The rests stay general: an item of an array, a key and a value are each followed by what comes next in it.
  induction hv generalizing w x y with
  | unsigned n =>
      have major := (Sized.unsigned n).major_eq hw same
      cases w with
      | unsigned m =>
          obtain ⟨number, rest⟩ := head_append_inj n.toNat_lt m.toNat_lt (by decide) same
          exact ⟨congrArg Value.unsigned (UInt64.toNat_inj.1 number), rest⟩
      | _ => simp [Value.major] at major
  | negative n =>
      have major := (Sized.negative n).major_eq hw same
      cases w with
      | negative m =>
          obtain ⟨number, rest⟩ := head_append_inj n.toNat_lt m.toNat_lt (by decide) same
          exact ⟨congrArg Value.negative (UInt64.toNat_inj.1 number), rest⟩
      | _ => simp [Value.major] at major
  | bytes size =>
      have major := (Sized.bytes size).major_eq hw same
      cases hw with
      | bytes size' =>
          obtain ⟨rfl, rest⟩ := string_append_inj size size' (by decide) same
          exact ⟨rfl, rest⟩
      | _ => simp [Value.major] at major
  | text size =>
      have major := (Sized.text size).major_eq hw same
      cases hw with
      | text size' =>
          obtain ⟨content, rest⟩ := string_append_inj size size' (by decide) same
          exact ⟨congrArg Value.text (Bytes.ofText_inj content), rest⟩
      | _ => simp [Value.major] at major
  | array size each ih =>
      have major := (Sized.array size each).major_eq hw same
      cases hw with
      | array size' each' =>
          rw [Value.write, Value.write, List.append_assoc, List.append_assoc] at same
          obtain ⟨length, same⟩ := head_append_inj size size' (by decide) same
          rw [writeItems_eq, writeItems_eq] at same
          obtain ⟨rfl, rest⟩ := flatMap_append_inj
            (fun a ha b hb x y same => ih a ha (each' b hb) same) length same
          exact ⟨rfl, rest⟩
      | _ => simp [Value.major] at major
  | map size keys values keys_ih values_ih =>
      have major := (Sized.map size keys values).major_eq hw same
      cases hw with
      | map size' keys' values' =>
          rw [Value.write, Value.write, List.append_assoc, List.append_assoc] at same
          obtain ⟨length, same⟩ := head_append_inj size size' (by decide) same
          rw [writeEntries_eq, writeEntries_eq] at same
          obtain ⟨rfl, rest⟩ := flatMap_append_inj (fun a ha b hb x y same => by
            rw [List.append_assoc, List.append_assoc] at same
            obtain ⟨key, same⟩ := keys_ih a ha (keys' b hb) same
            obtain ⟨value, rest⟩ := values_ih a ha (values' b hb) same
            exact ⟨Prod.ext key value, rest⟩) length same
          exact ⟨rfl, rest⟩
      | _ => simp [Value.major] at major
  | tag number inner ih =>
      have major := (Sized.tag number inner).major_eq hw same
      cases hw with
      | tag number' inner' =>
          rw [Value.write, Value.write, List.append_assoc, List.append_assoc] at same
          obtain ⟨numbers, same⟩ := head_append_inj number.toNat_lt number'.toNat_lt (by decide) same
          obtain ⟨rfl, rest⟩ := ih inner' same
          exact ⟨by rw [UInt64.toNat_inj.1 numbers], rest⟩
      | _ => simp [Value.major] at major
  | bool b => exact simple_append_inj rfl ((Sized.bool b).major_eq hw same).symm same
  | null => exact simple_append_inj rfl (Sized.null.major_eq hw same).symm same
  | float bits => exact simple_append_inj rfl ((Sized.float bits).major_eq hw same).symm same

theorem Sized.write_inj (hv : Sized v) (hw : Sized w) (same : v.write = w.write) : v = w :=
  (hv.write_append_inj hw (x := []) (y := []) (by rw [same])).1

end SecurityKey.Cbor
