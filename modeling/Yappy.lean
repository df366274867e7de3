import Yappy.RatchetTwoParty
import Yappy.Relational
import Yappy.PermissionSql
import Yappy.PermissionFastPath
import Yappy.PermissionEscalation
import Yappy.PermissionBots
import Yappy.PermissionRank
import Yappy.PermissionRejoin
import Yappy.RatchetAgreement
import Yappy.GatewayConnections
import Yappy.GatewayAccess
import Yappy.BusDelivery
import Yappy.BusSubscriptions
import Yappy.MessageGapless
import Yappy.SpaceUpgradeRuns
import Yappy.MembershipBans
import Yappy.MessageCards
import Yappy.MessageDeaths
import Yappy.MessageReadable
import Yappy.SyncComplete
import Yappy.MessageConfined
import Yappy.RateLimit
import Yappy.CallTalkTime
import Yappy.AuthRetry
import Yappy.AuthSignOut
import Yappy.DeviceKeyPublication
import Yappy.VerificationCodes
import Yappy.ScheduledMessages
import Yappy.PollVotes
import Yappy.EventReminders
import Yappy.LimiterCache
import Yappy.ReadCursors
import Yappy.MutualFollows
import Yappy.Rollups
import Yappy.TriggerRollups
import Yappy.MentionBadges
import Yappy.SealedTabs
import Yappy.HomeList
import Yappy.PushDelivery
import Yappy.EditHistory
import Yappy.SendRetries
import Yappy.LazyMembership
import Yappy.PayloadRecipients
import Yappy.GrantConsent
import Yappy.InviteUses
import Yappy.ForwardDelivery
import Yappy.MediaReferences
import Yappy.EarlyClaims
import Yappy.BotConnection
import Yappy.WebSession
import Yappy.TabRefreshes
import Yappy.InternetAddress
import Yappy.LinkPreviews
import Yappy.WebGateway
import Yappy.ReactionEchoes
import Yappy.Timeline
import Yappy.DevicePresence
import Yappy.RoomHistory
import Yappy.UsernameHistory
import Yappy.SlowMode
import Yappy.MembershipSize
import Yappy.SealedHeaders
import Yappy.VoiceRooms
import Yappy.ReportActions
import Yappy.MediaContent
import Yappy.ChannelList
import Yappy.CursorPages
import Yappy.RankedListings
import Yappy.KeysetPages
import Yappy.CivilTime
import Yappy.KeysetFeeds
import Yappy.RoundedPages
import Yappy.SocialLists
import Yappy.Numerals
import Yappy.SolanaAddress
import Yappy.RatchetMemory
import Yappy.RatchetForgery
import Yappy.MarkdownPieces
import Yappy.FencedSegments
import Yappy.GreedyWalk
import Yappy.CodeBlockOffsets
import Yappy.MessageEdits
import Yappy.HistoryPages
import Yappy.CatchUpCounts
import Yappy.PromptPresses
import Yappy.JsonFrames
import Yappy.DateArithmetic
import Yappy.RecapWeeks
import Yappy.SessionCache
import Yappy.ReminderPromises
import Yappy.SpaceChannels
import Yappy.AndroidGateway
import Yappy.AndroidRefresh
import Yappy.MessageSearch
import Yappy.WallClock
import Yappy.DmThreads
import Yappy.Announcements
import Yappy.AudienceBatch
import Yappy.MentionRollups
