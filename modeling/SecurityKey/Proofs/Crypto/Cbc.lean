import SecurityKey.Crypto.Cbc
import SecurityKey.Proofs.Bytes
import SecurityKey.Proofs.Crypto.Aes

/-!
# Chained blocks

A byte string of a whole number of blocks is cut into them and joined again. Decrypting takes the chain apart, and
encrypting what came out puts it together again.
-/

namespace SecurityKey

namespace Crypto

open Aes

/-! ## Blocks -/

namespace Aes.Block

theorem ofBytes_toBytes (a : Block) : ofBytes a.toBytes = a := rfl

theorem toBytes_ofBytes {bytes : Bytes} (len : bytes.length = 16) : (ofBytes bytes).toBytes = bytes := by
  match bytes, len with
  | [_, _, _, _, _, _, _, _, _, _, _, _, _, _, _, _], _ => rfl

end Aes.Block

namespace Cbc

/-- The bytes of blocks. -/
def join (blocks : List Block) : Bytes :=
  blocks.flatMap Block.toBytes

theorem blocks_join (bs : List Block) : blocks (join bs) = bs := by
  induction bs with
  | nil => rfl
  | cons b bs ih =>
      rw [join, List.flatMap_cons, ← join, blocks, Bytes.chunks_append b.length_toBytes (by decide), List.map_cons,
        Block.ofBytes_toBytes, ← blocks, ih]

theorem length_join (bs : List Block) : (join bs).length = 16 * bs.length := by
  induction bs with
  | nil => rfl
  | cons b bs ih =>
      rw [join, List.flatMap_cons, ← join, List.length_append, Block.length_toBytes, ih, List.length_cons]
      omega

theorem exists_join {data : Bytes} (whole : data.length % 16 = 0) : ∃ bs, data = join bs := by
  obtain ⟨n, len⟩ : ∃ n, data.length = 16 * n := ⟨data.length / 16, by omega⟩
  clear whole
  induction n generalizing data with
  | zero => exact ⟨[], List.eq_nil_of_length_eq_zero len⟩
  | succ n ih =>
      obtain ⟨bs, rest⟩ : ∃ bs, data.drop 16 = join bs := ih (by rw [List.length_drop]; omega)
      refine ⟨.ofBytes (data.take 16) :: bs, ?_⟩
      rw [join, List.flatMap_cons, ← join, ← rest, Block.toBytes_ofBytes (by rw [List.length_take]; omega),
        List.take_append_drop]

/-! ## Chains -/

variable (keys : Schedule) (key iv : Bytes) {data : Bytes}

theorem length_encryptBlocks (previous : Block) (bs : List Block) :
    (encryptBlocks keys previous bs).length = bs.length := by
  induction bs generalizing previous with
  | nil => rfl
  | cons b bs ih => simp [encryptBlocks, ih]

theorem length_decryptBlocks (previous : Block) (bs : List Block) :
    (decryptBlocks keys previous bs).length = bs.length := by
  induction bs generalizing previous with
  | nil => rfl
  | cons b bs ih => simp [decryptBlocks, ih]

theorem decryptBlocks_encryptBlocks (previous : Block) (bs : List Block) :
    decryptBlocks keys previous (encryptBlocks keys previous bs) = bs := by
  induction bs generalizing previous with
  | nil => rfl
  | cons b bs ih => simp [encryptBlocks, decryptBlocks, Schedule.decrypt_encrypt, Block.xor_xor_self, ih]

theorem encryptBlocks_decryptBlocks (previous : Block) (bs : List Block) :
    encryptBlocks keys previous (decryptBlocks keys previous bs) = bs := by
  -- On the way back each link is the encrypted block itself, which is what decrypting chained with.
  induction bs generalizing previous with
  | nil => rfl
  | cons b bs ih => simp [encryptBlocks, decryptBlocks, Block.xor_xor_self, Schedule.encrypt_decrypt, ih]

theorem length_encrypt (whole : data.length % 16 = 0) : (encrypt key iv data).length = data.length := by
  obtain ⟨bs, rfl⟩ := exists_join whole
  show (join (encryptBlocks _ _ (blocks (join bs)))).length = _
  rw [length_join, length_encryptBlocks, blocks_join, length_join]

theorem length_decrypt (whole : data.length % 16 = 0) : (decrypt key iv data).length = data.length := by
  obtain ⟨bs, rfl⟩ := exists_join whole
  show (join (decryptBlocks _ _ (blocks (join bs)))).length = _
  rw [length_join, length_decryptBlocks, blocks_join, length_join]

/-- What is decrypted is what was encrypted, under any key and any initialization vector. -/
theorem decrypt_encrypt (whole : data.length % 16 = 0) : decrypt key iv (encrypt key iv data) = data := by
  obtain ⟨bs, rfl⟩ := exists_join whole
  show join (decryptBlocks _ _ (blocks (join (encryptBlocks _ _ (blocks (join bs)))))) = _
  rw [blocks_join, blocks_join, decryptBlocks_encryptBlocks]

/-- What is encrypted is what was decrypted, under any key and any initialization vector. -/
theorem encrypt_decrypt (whole : data.length % 16 = 0) : encrypt key iv (decrypt key iv data) = data := by
  obtain ⟨bs, rfl⟩ := exists_join whole
  show join (encryptBlocks _ _ (blocks (join (decryptBlocks _ _ (blocks (join bs)))))) = _
  rw [blocks_join, blocks_join, encryptBlocks_decryptBlocks]

end Cbc

end Crypto

end SecurityKey
