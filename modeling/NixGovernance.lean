import NixGovernance.Wallet
import NixGovernance.Ballot
import NixGovernance.Json
import NixGovernance.Cast
import NixGovernance.Paths
import NixGovernance.Ledger
import NixGovernance.Client
import NixGovernance.Selection
import NixGovernance.Table
import NixGovernance.VoteWeight
