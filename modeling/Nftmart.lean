import Nftmart.Lib.Word
import Nftmart.Lib.Effect
import Nftmart.Lib.Machine
import Nftmart.Lib.Codec
import Nftmart.Model.Primitives
import Nftmart.Model.Currencies
import Nftmart.Model.OrmlNft
import Nftmart.Model.Types
import Nftmart.Model.Runtime
import Nftmart.Model.Pallet
import Nftmart.Model.Dispatch
import Nftmart.Model.Migration
import Nftmart.Spec.Frame
import Nftmart.Lib.Count
import Nftmart.Spec.OrmlNft
import Nftmart.Spec.Currencies
import Nftmart.Spec.Pallet
import Nftmart.Spec.Step
import Nftmart.Invariant.Store
import Nftmart.Invariant.Orders
import Nftmart.Invariant.Categories
import Nftmart.Behaviour.Mint
import Nftmart.Behaviour.Orders
import Nftmart.Behaviour.StaleBid
import Nftmart.Behaviour.Migration
import Nftmart.Behaviour.Consent
import Nftmart.Lib.Supply
import Nftmart.Spec.Money
import Nftmart.Invariant.Money
import Nftmart.Model.OrmlTokens
import Nftmart.Spec.Ledger
import Nftmart.Invariant.Issuance
import Nftmart.Invariant.Locks
import Nftmart.Behaviour.Ledger
import Nftmart.Spec.Escrow
import Nftmart.Behaviour.Escrow
import Nftmart.Invariant.Backing
