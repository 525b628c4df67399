import Passbook.Store
import Passbook.Work.Basic
/-!
What the ledger asks of a store, as work on a state of any kind, and the store itself as one that answers at once.
-/
namespace Passbook

structure Repository (σ : Type) where
  addUser : UserId → Work σ (Except StoreError User)
  findUser : UserId → Work σ (Except StoreError User)
  addTransaction : Transaction → Work σ (Except StoreError Unit)
  history : UserId → Page → Work σ (Except StoreError (List Transaction))

def Store.repository : Repository Store where
  addUser user := .modify (Store.addUser user)
  findUser user := .look (Store.find user)
  addTransaction t := .modify (Store.record t)
  history user page := .look (Store.page user page)

end Passbook
