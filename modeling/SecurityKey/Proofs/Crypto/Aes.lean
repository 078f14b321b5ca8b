import SecurityKey.Crypto.Aes

/-!
# Encryption and decryption invert each other

Each step of a round has its inverse, on both sides. Only that doubling is additive enters into the mixing of columns:
the square of the polynomial of `mix` is that of `mixSquare`, and the square of that one is 1.
-/

namespace SecurityKey.Crypto.Aes

/-! ## Bytes -/

theorem getD_eq (table : Array UInt8) (b : UInt8) : table.getD b.toNat 0 = table.toList.getD b.toNat 0 := by
  simp [Array.getD_eq_getD_getElem?, List.getD_eq_getElem?_getD]

theorem map_substitutes :
    substitutes.toList.map (fun b => preimages.toList.getD b.toNat 0) = (List.range 256).map .ofNat := by
  decide +kernel

theorem map_preimages :
    preimages.toList.map (fun b => substitutes.toList.getD b.toNat 0) = (List.range 256).map .ofNat := by
  decide +kernel

/-- A table that is undone entry by entry by another one is undone on every byte. -/
theorem getD_getD {table undo : Array UInt8}
    (h : table.toList.map (fun b => undo.toList.getD b.toNat 0) = (List.range 256).map .ofNat) (b : UInt8) :
    undo.getD (table.getD b.toNat 0).toNat 0 = b := by
  have entry : (table.toList.map fun b => undo.toList.getD b.toNat 0)[b.toNat]? = some b := by
    rw [h, List.getElem?_map, List.getElem?_range b.toNat_lt]
    simp
  obtain ⟨s, found, same⟩ := Option.map_eq_some_iff.1 (List.getElem?_map ▸ entry)
  have read : table.toList.getD b.toNat 0 = s := by rw [List.getD_eq_getElem?_getD, found, Option.getD_some]
  rw [getD_eq, getD_eq, read, same]

theorem preimage_substitute (b : UInt8) : preimage (substitute b) = b :=
  getD_getD map_substitutes b

theorem substitute_preimage (b : UInt8) : substitute (preimage b) = b :=
  getD_getD map_preimages b

theorem xor_left_comm (a b c : UInt8) : a ^^^ (b ^^^ c) = b ^^^ (a ^^^ c) := by
  rw [← UInt8.xor_assoc, UInt8.xor_comm a b, UInt8.xor_assoc]

theorem xor_xor_cancel (a b : UInt8) : a ^^^ (a ^^^ b) = b := by
  rw [← UInt8.xor_assoc, UInt8.xor_self, UInt8.zero_xor]

theorem lt_iff_msb (b : UInt8) : b < 0x80 ↔ b.toBitVec.msb = false := by
  rw [UInt8.lt_iff_toNat_lt, BitVec.msb_eq_false_iff_two_mul_lt, UInt8.toNat_toBitVec]
  simp
  omega

theorem double_eq (b : UInt8) : double b = (b <<< 1) ^^^ (if b.toBitVec.msb then 0x1b else 0) := by
  unfold double
  by_cases high : b.toBitVec.msb
  · rw [if_neg (by simp [lt_iff_msb, high]), if_pos high]
  · rw [if_pos ((lt_iff_msb b).2 (by simpa using high)), if_neg high, UInt8.xor_zero]

theorem xor_shiftLeft (a b : UInt8) : (a ^^^ b) <<< 1 = (a <<< 1) ^^^ (b <<< 1) := by
  apply UInt8.toBitVec_inj.1
  simp [UInt8.toBitVec_shiftLeft, BitVec.shiftLeft_xor_distrib]

/-- Doubling is additive. -/
theorem double_xor (a b : UInt8) : double (a ^^^ b) = double a ^^^ double b := by
  rw [double_eq, double_eq, double_eq, UInt8.toBitVec_xor, BitVec.msb_xor, xor_shiftLeft]
  cases a.toBitVec.msb <;> cases b.toBitVec.msb <;>
    simp [UInt8.xor_assoc, UInt8.xor_comm, xor_left_comm]

/-! ## Columns -/

namespace Word

variable (v w : Word)

theorem xor_xor_self : (v.xor w).xor w = v := by
  simp only [xor, UInt8.xor_assoc, UInt8.xor_self, UInt8.xor_zero]

theorem map_preimage_substitute : (w.map substitute).map preimage = w := by
  simp [map, preimage_substitute]

theorem map_substitute_preimage : (w.map preimage).map substitute = w := by
  simp [map, substitute_preimage]

theorem mix_mix : w.mix.mix = w.mixSquare := by
  simp only [mix, mixSquare, map, double_xor, mk.injEq]
  refine ⟨?_, ?_, ?_, ?_⟩ <;>
    simp only [UInt8.xor_assoc, UInt8.xor_comm, xor_left_comm, xor_xor_cancel, UInt8.xor_self, UInt8.zero_xor]

theorem mixSquare_mixSquare : w.mixSquare.mixSquare = w := by
  obtain ⟨b0, b1, b2, b3⟩ := w
  simp only [mixSquare, map, double_xor, mk.injEq]
  refine ⟨?_, ?_, ?_, ?_⟩ <;> simp [UInt8.xor_comm, xor_left_comm]

theorem unmix_mix : w.mix.unmix = w := by
  -- Mixing has order four, and unmixing is mixing three times.
  calc w.mix.unmix = (w.mix.mixSquare).mix := rfl
    _ = w.mix.mix.mix.mix := by rw [mix_mix w.mix]
    _ = w.mixSquare.mixSquare := by rw [mix_mix w, mix_mix]
    _ = w := mixSquare_mixSquare w

theorem mix_unmix : w.unmix.mix = w := by
  calc w.unmix.mix = w.mixSquare.mix.mix := rfl
    _ = w.mixSquare.mixSquare := mix_mix w.mixSquare
    _ = w := mixSquare_mixSquare w

end Word

/-! ## Blocks and rounds -/

namespace Block

variable (a b : Block)

theorem xor_xor_self : (a.xor b).xor b = a := by
  simp [xor, Word.xor_xor_self]

theorem mapColumns_mapColumns {f g : Word → Word} (h : ∀ w, g (f w) = w) : (a.mapColumns f).mapColumns g = a := by
  simp [mapColumns, h]

theorem unshiftRows_shiftRows : a.shiftRows.unshiftRows = a := rfl

theorem shiftRows_unshiftRows : a.unshiftRows.shiftRows = a := rfl

end Block

theorem unround_round (state key : Block) : unround (round state key) key = state := by
  rw [unround, round, Block.xor_xor_self, Block.mapColumns_mapColumns _ Word.unmix_mix, Block.unshiftRows_shiftRows,
    Block.mapColumns_mapColumns _ Word.map_preimage_substitute]

theorem round_unround (state key : Block) : round (unround state key) key = state := by
  rw [unround, round, Block.mapColumns_mapColumns _ Word.map_substitute_preimage, Block.shiftRows_unshiftRows,
    Block.mapColumns_mapColumns _ Word.mix_unmix, Block.xor_xor_self]

theorem foldl_unround_round (keys : List Block) (state : Block) :
    keys.reverse.foldl unround (keys.foldl round state) = state := by
  induction keys generalizing state with
  | nil => rfl
  | cons key keys ih =>
      rw [List.reverse_cons, List.foldl_append, List.foldl_cons, List.foldl_cons, List.foldl_nil, ih]
      exact unround_round state key

theorem foldl_round_unround (keys : List Block) (state : Block) :
    keys.foldl round (keys.reverse.foldl unround state) = state := by
  induction keys generalizing state with
  | nil => rfl
  | cons key keys ih =>
      rw [List.reverse_cons, List.foldl_append, List.foldl_cons, List.foldl_cons, List.foldl_nil, round_unround]
      exact ih state

/-- What is decrypted is what was encrypted, whatever the round keys. -/
theorem Schedule.decrypt_encrypt (keys : Schedule) (block : Block) : keys.decrypt (keys.encrypt block) = block := by
  rw [decrypt, encrypt]
  simp only [Block.xor_xor_self, Block.unshiftRows_shiftRows,
    Block.mapColumns_mapColumns _ Word.map_preimage_substitute, foldl_unround_round]

/-- What is encrypted is what was decrypted, whatever the round keys. -/
theorem Schedule.encrypt_decrypt (keys : Schedule) (block : Block) : keys.encrypt (keys.decrypt block) = block := by
  rw [encrypt, decrypt]
  simp only [Block.xor_xor_self, foldl_round_unround, Block.mapColumns_mapColumns _ Word.map_substitute_preimage,
    Block.shiftRows_unshiftRows]

end SecurityKey.Crypto.Aes
