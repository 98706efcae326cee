import BotHider.Lib.Run
import BotHider.Lib.Token
import BotHider.Lib.Sweep
import BotHider.Lib.Mask
import BotHider.Model.BotInfo
import BotHider.Model.Avatar
import BotHider.Model.Engine
import BotHider.Access.Permissions
import BotHider.Avatar.Converge
import BotHider.Avatar.Reads
import BotHider.Avatar.TableRuns
import BotHider.Bridge.Notified
import BotHider.Bridge.PersonaNames
import BotHider.Bridge.Writes
import BotHider.Clan.Presenter
import BotHider.Disguise.Consistency
import BotHider.Disguise.ConsistentRuns
import BotHider.Disguise.Raises
import BotHider.Disguise.Transaction
import BotHider.Flair.Accounts
import BotHider.Identity.Coupling
import BotHider.Identity.Lifetimes
import BotHider.Identity.NameCuts
import BotHider.Identity.Release
import BotHider.Lib.Deferred
import BotHider.Avatar.CommandSteps
import BotHider.Avatar.LastWins
import BotHider.Disguise.Nesting
import BotHider.Disguise.Packing
import BotHider.Kick.Names
import BotHider.Kick.Targets
import BotHider.Lib.Grace
import BotHider.Lib.Window
import BotHider.Mode.Intent
import BotHider.Model.Config
import BotHider.Ping.Bounds
import BotHider.Ping.Generator
import BotHider.Pool.Texts
import BotHider.Removal.Queue
import BotHider.Flair.Documents
import BotHider.Flair.Saves
import BotHider.Flair.Progress
import BotHider.Disguise.Humans
import BotHider.Startup.Lifecycle
import BotHider.Startup.Provider
import BotHider.Memory.Runs
