import SynthApi.Common.BodyStorage
import SynthApi.Common.SsrfProtection
import SynthApi.Controller.ChannelKeys
import SynthApi.Controller.OrderLock
import SynthApi.Controller.Relay
import SynthApi.Middleware.Distributor
import SynthApi.Middleware.LostSlots
import SynthApi.Middleware.RateLimit
import SynthApi.Middleware.SuccessLimit
import SynthApi.Model.Channel.Status
import SynthApi.Model.PaymentRefundReview
import SynthApi.Model.Redemption
import SynthApi.Model.Registration
import SynthApi.Model.RewardProgram.Benefit
import SynthApi.Model.RewardProgram.Invitation
import SynthApi.Model.RewardProgram.Replay
import SynthApi.Model.Subscription.Bounds
import SynthApi.Model.Subscription.Periods
import SynthApi.Model.Subscription.RefundBound
import SynthApi.Model.Subscription.ResetEpoch
import SynthApi.Model.TopUp.Alipay
import SynthApi.Model.TopUp.Credit
import SynthApi.Model.TopUp.Manual
import SynthApi.Relay.HeaderIsolation
import SynthApi.Relay.Realtime
import SynthApi.Relay.StopReason
import SynthApi.Relay.StreamContent
import SynthApi.Relay.TaskPrice
import SynthApi.Service.AlipayCompletion
import SynthApi.Service.ConvertRequest
import SynthApi.Service.ConvertResponse
import SynthApi.Service.Finality
import SynthApi.Service.Overdraw
import SynthApi.Service.RouteOrder
import SynthApi.Service.SunoRefund
import SynthApi.Service.TaskAbsorption
import SynthApi.Service.TaskRefund
import SynthApi.Service.TextTokens
import SynthApi.Service.TokenHistory
import SynthApi.Service.WalletDebit
