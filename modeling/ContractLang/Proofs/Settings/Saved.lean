import ContractLang.Proofs.Settings.RoundTrip
import ContractLang.Proofs.Store.Beside

namespace ContractLang.Settings

theorem load_of_leadsNowhere {contents : Except FileError (List UInt8)}
    (h : Store.LeadsNowhere contents) : load contents = .ok standard := by
  rcases h with h | h
  · rw [h]
    rfl
  · rw [h]
    rfl

/-- A file with the standard settings is no different from none. -/
theorem load_of_beside {l : Location} {s t : Store}
    (beside : Store.Beside l standard.toBytes s t) (path : Path) :
    load (s.read path) = load (t.read path) := by
  rcases beside.read path with same | ⟨written, missing⟩ | ⟨left, right⟩
  · rw [same]
  · rw [written, missing]
    exact ofBytes_toBytes standard
  · rw [load_of_leadsNowhere left, load_of_leadsNowhere right]

theorem load_saved {settings : Settings} {store after : Store} {path : Path}
    (saved : store.write path settings.toBytes = .ok after) :
    load (after.read path) = .ok settings := by
  rw [Store.read_of_write saved, load, ofBytes_toBytes]

def unusual : Settings :=
  ⟨"", "a\"b\\c\td\r\ne\x00", "\x7f\x0b\x0c\x08\x1b\x85\u2028", "schl\u00fcssel 🔑\ufeff", true⟩

theorem load_saved_of_unusual :
    ∃ after, Store.empty.write (.ofString "contractgen.toml") unusual.toBytes = .ok after
      ∧ load (after.read (.ofString "contractgen.toml")) = .ok unusual := by
  have saved : Store.empty.write (.ofString "contractgen.toml") unusual.toBytes
      = .ok (Store.empty.put ⟨.here, ["contractgen.toml"]⟩ (.file unusual.toBytes)) :=
    Store.write_of_locate _ rfl (by decide)
  exact ⟨_, saved, load_saved saved⟩

end ContractLang.Settings
