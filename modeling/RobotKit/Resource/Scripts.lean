import RobotKit.Text.Packed

/-!
# Scripts that come with the tool

Every new project gets the script of the device library, so that an editor knows the names that a
robot program uses; what its parts do when a program runs is in the catalogue of the devices. The
other scripts are what new projects and packages start from.
-/

namespace RobotKit.Resource

/-- The scripts, with form feeds between them, packed. -/
def packedScripts : String :=
  "Vn5ik|JrY=d?[.mTo+1T--n(yCu|?T=4VhD3?RdK%u1GgBNb>yAr1e)nGS[P50^@t&^.aup,:6)D'k_(9XhOeoL[Bof5@nT]dy->
f7<R-C,<FH1tU@ge&6FFy;u%Q&gz!S.(P4^R|B7RT,bJ0Nd'cK74$b11|78qn-Vu@fTS%<)[pfxX$ksPI;<3HukRqQ~_j26OT(B~
KzqUli<y^heETco2AbQ^]oR@,3E7i4ez7)l|/~9To+D7c!!wrJDtH,YqbDZ83eV'QzwtGvoH!i,ciEs6Gk'cJEiq2vM(X|dy|iuR
,5:OD,IlZCKtr~clfvvk^-nL_VcN_nV4doOssLWoQ>qF2%|c-X?kuzu[,NZ'%ijhfn.3Jr/x^:~AmNNd$Z9o@-uA<KM6l$m/r2Y2
hD,rcn&E8&H4rVO[]>afB,oAN+gSK@POM:Y2-/|u]Os47C8Ov&dRyGu1)VZgB21JIQrf'PM@euZmBj-%Y$j~5,:x@JDLMlo<'8<k
Q-[)|Upj&;pRCMn4hz^bLt@'Owy?H;8pCE6_;$h~*rFQyjn_bTy0l0sxOB9%6EA$YS=fC~wpB'wy?u2,N/^?O5(v^xkKW2RkdHMu
9|ja))D+%X!DwsB[^E;1A<Y6SWqyXDL>Utq_'>m<Ya9WEA)?@ohMGpd-gal>W3*<0YIpedAD?M)tcF:'53OU@1.)h|co$[82B5(%
$-;7?oT0Fercym;d:cD|Hp3i~t!5[_ks=dV5a:rXyPoTKOJzPsD%Cwj%Psgx9ta9n?S*<OsJ|Yg0)Bu>v(os3t.Wbw*Thr<-jymJ
/bjWmapDtD|T@O;>,v|(x=dJ~|M0Qg@k,q-&O4~7GHsYftW-vc&R2uwZdSZyQpXE-^rXN63A@(@|PzNXQ:^8A8'~E4Dy%>vcBA%~
U~/c'fkkhU1![-AgvsE~Z;<)oRp|NuJzr/89o6^[=u=x76Mk>Kt211m5ul@0Ycr@VMb*D,>=7MU[(0j5o04^X,j]5li;E7G_RS@(
R^o9j?p7lO./[BzJ'Y8guIBk]%>zhKA@d?A5k;5@T6@EmstdSOjO~^wf('sM:iFcIICUwN,!v(]eC&<d6,K?vWj)cH;utel12JID
iinL*bkG6mW]kw!t+wU=F.$e~&$g@(?k;ay_Tg|lWss7grmTS_Z|60o,!mH+>EypZPJf$pm3;x7%35kzsWpW&N[CZ-zpuqszY)z,
a1kxfGUrgf/&<k0Qs69tEV@$38dnCe9RvEq2j9|+Um:ccY;qb2yGM7QS+8jRtP8OZe$p1m,PoFpCC[c(FmCiWUoj*cPJYu-=](V|
8.nJtvzOrBcvx(ou_<Y4IY_6.<I~xwk_031g|]b[lP;r&h?H!DRR^SJ_7L5~Wiz:Pd8W.&z>]Tu+hvs.2yEKD?$CGp]Bnau-76h5
95o(0y4!k5l-|pjo$&^WUn:!lmI^;w+:;1~raAWXbY^Zq_vs1rOhM.OWeBpml<5kOs!I%6^@xtY>@P@W[e*y@@BDRfbKrwB,^:V@
Z*s]&!sp0<c7|-HgKupj3KkdgTn~@>2[SRM+IqxAEg&X.!f3?T|G!lgF08t1oBl<i[/tcb6Qh+BP=n'^OC])0FZ^):T~g*HKd<y_
I8sJ)3w%HR=r?BgR?!wPeW*GXH|%_(U!|WY7hJb7J(|UsObPGE$([=;[Ng$Bx6r^s]l9D7$i1.5:'*zHUG50gv)o!9nahgA0|FKD
v;E^^$W.@'o$pjYm?O[B0M|7GVD=LPvXBbtW8Vx)%:<Xedp0((B'JS$h8c~s+KA,VT[9Vvq~3>Byv[p'f[Pmxx6Wl[T:?=bRu0<i
ABJpg^r,sM@XL2OL-veltNtKxUzfR/Xdx;1g'%Y34&)Ls[V::%-aenSn*S7XAW5_b=8;T!07a5,aR[Ay~Cj*Z]@(!0fj_1sbmXo0
9MR?L276IEkssL/Jq!ME'hN1eHttD$T|w|IgF/UUIiD+WRrHrWkP50]>PLx-cCuZJVUgFV]efUjf)l_WUvS98Vstr6A&QAW+Ch>(
!!!rRrS&)1J+N11h:5*VKhg*L$2S5w7O'Q(DsrQmuw6+4vLiAqi(!^DgEdH~]LGU&U//hKtY)6TPG@ldg(i>:!vg=|/sn53@X|Oq
XGSPSGENN+.CWU3=(2'@0OI|mil&mbC,re<i|<4T=|DuhhjnzW/5UDdG*1S5&10jhA'9D'1kaQUzJG1-UKO)2ri-?nn-~'3cfEJO
xo=Zdoj[pw0mY>6TFmD7RL@4q1X*o$F1A[h]5Kdu:[_Y[ch?eTO/5knz=|<Of.dfFklT~:SBC5LLpB+$XW~Mkc5,x4mNei=-i'+_
JV>g6YZ*_ev~>=j/t[Au[+&RbY[h;)fxIu8[q@&yO=njLpP&)84[S:fcTZdX.[:1hhzgZ[bN5qsT]pf$,'k17|;>-iQas^PG^RDE
@ezkrQIeb8hQ)_Sab2|6!*Hr%^CgM!9..Q1fJV/ve8FQ=wuyFfLOHZ1-MV$_V5puzF3G0.NO?n;<UzB>yXS=8=;CtAvnTlRGNx,;
_i1~bLGMyP@aK9rO$Lb+s3&<0+7Y]n7'a][ebr?5TxD$lMGQyNLh];G:*FtAZyzkPOjsm>=e2y!8%UZ3pVfch/|gX/;rkJQVc7fb
qe0[LC8[DS/[uv]0s&tabh!8jAavYF]RUVJ<<<P>>u@F9$A%@;M8I|Ve6HL+22)R]+IIF0G)dp6,T5sbDB59?[j^daN.ldu?Z<ne
m6;],52tt:nv$*OIiLQ:h]N+:X-+NM-WOnR[1pR201*X~ZFCnf<%-nu?ANN*s4^[FkClU,R6=)SH1_yb&x+r(0),Ef>>Wb)a.,@R
8zSZdm3gYKrHG2?fZl$dVC7jr92G&@Y=OTyUV='wZRm'te'AM+!oW4eX>qhEBj&|eJAwVCN-9y.0-z,[I7nDb<HFKYfB:pftjP^D
fsFPPyaW)Tt.t0Y3zXneh:@'C8O67!MeTp(rISB(J*FSbP=/6aPZ|z*Ui36B-T~C-vwHf76vO&ZgD.i+id05RJl^upPu'uegg.hw
!mQEd7vl$iEf|EUP*n5dZQ>kfeaVtAP9Tk$xrzJ8ql'%-yeKqihYgdG)IeT[YpajP5kO2(*]ZiEMGp]%-Umi+hr8bJ^d(nq;<Oi'
O+q7R4:7Oa!bKmuf('2Af1,znk)e<*n(BrX:B]<s=Rj|5=)29r/;>7QmdN3kk>x;@*1;qw.::eZjd!uPf=(Pf]cu5sX2+gk$[r*^
Fei?lzS,!xmW4T|(/C<,|oVq_x3yj|<U:o4GC/1gXz[*~Y_^O:9?5hkR8s+p(<_+@L_&=d@mY(A/_Hsc/i!(x7YyJ)>v=_$EMhbP
F$iP<<2*PDZ9>mjl]62L6]_j)3gB^W)2Z*qb1!&(|u-TWO&V<InM[vzx1:X9Qo&?gF;6732AuVsPd;L+3i.9atfF[zDfseZ=1BL5
Z@f2*2/^k;*vb;m<*YkA$=,r^PC//JGN7AusFXc?~tg35=3AC&e)dA$0ys+BkDFYM93]3hf,2Z:y4:bhCE(2<*3mhrvLS,AkW]+w
t%TLUH|J0Vk5SQ67m(KC8[deaU7Lvbe[Ca$8D]*a3QsW:o_d+]QQ+<;0@??2PYc2+S*iP1S>a?fl?dC'oc4LsYxWpxVWX;ydwBh%
dl<7|jtZk7b/CGKj&mmBvVP49&qZr?zCXFpi]~DATn(P-eiHjxAu1I(I-$!0@rt(QVCru]+6?!IRg4+Mc~+Wk'<l&n@B+dO4E;mB
ST/UM_KvX40oVa86OszBA~E,IZ.J&PC/,O[[wod8*)8iLY(6Bipu6*[n)ti$AYhw7RaTz2^hG78(x5vnhul]ct]Nh*kjg[Hag2nK
oE,^=FV&9UX>.BPqQ1'dYhFAU:AhA*v40nq!k>1jylzB8]C32O$)xcCo8Wn[@9RJ^exF>c~cvPcX2NBFCu'g(SXB+,h.Q?mxkAT>
40jq(5>%$H2ku>wzT,~z+N3B;TpW%]SWd[nmkudUIuJGXdn^RL1.qyV]>Cw&kX@pHQ|+2EGCP*hNIm5/K$vMUL<GA8s5@+LeBL'^
0av0TWwKLK0D2l9Zp7Xe.L3lot/vucS>%zD/DYAZLwHAvYwpy,m4oWzCa2-ba,tt_^N$:'|u.XQokTC6!Li_/v*t-E?Vw7s[Ee0Y
Z+CE<0:=1[]C'&:$%&h*&)IrcVz:2D->jX^t9=*RQ.USMAc&MCjcv15b/@DYYs_e6jnhvLL-x_='L~lI=<kKeh|TSK>d12-?ah?%
CMn6(?zChBV(!ePy<)qq&%1=0-6Jd1m@WHmSYmKKHIWyw(nC4oKy+9pxBJ?E]eB-~6;<aNaEnr:2l2P8|%LNjrm9R*K9@Q^iOQo(
vP|bFT9ES'5w]|38uSakR2M+:Ug(U/@2gcVa*]U[&vHK8VZ'eM)o5&G6i>7)fLCA072RU8tobN?lG^WoepGVIGxQQT/(Ze8lB1.z
ejg^8C=Ow-3w8kWIa9YVQxm+&kXTWMrOg?BXj<H(b$=9z?LsK[yO&zD'ZDh!]>|$+3ASvAp84*sy=ocUG:QhL_zaq%IKk;'YSaQ)
aubOT.&%m$.@;~|A>1cP5!e.ryL,a$5q>_Rd.'<,kO$b-+a/]0jk6zxuh$SdV?i=taTanyz@Gw,X|t1a;b)QDO<.KFExQ/r4sFN&
V!fdCC*eb.O+_/>Q_Np.U-@+7evJER%74B67Ug,P.J~Gd%gY|bx;XnSe](]c)w?]IL$~2W*)'gS'(t[D'P2tVcAtPT/$DHNHC$nk
(Q0Ao*+!sRjX.%Mz(O!r0b9@*_I,S4&iKC~C.caEG_Aes[+BhJT0=qJ%_J7OOH*:0M+@%,)e$oHYgjc2O'>4^[k_jj-Dj_jM[8zC
~.D+;!<HAGG^m5Uc!pTA0@1oy~C)EGS!OUSvdu)Yb,SRK5)H=q6p%iK*uq6+OV|t;Xf4rJ9=GdA)nH(o;pMd0lt_vGWFT<vz+'r%
@+^NY-MJF36.cun,-o&dz6Ihr+B0O=nQw=xM.$':gx(DIa$D[pL'nkhRA^KFI6W,km;S[ut'iDMGp'8lpSfH%f-t-VajYE+C/jbS
6w?Lf$N'QjBcEm04BN4-vSDk(xgYL_8AK&!y;d)Sp<$IIzz)1YjoA>;&p!QY?BeF*BxS]![^aTqR@%vPN8(<>(u]Ce3~saM%T+DP
g/AtFu~L1?V$SA+8,SY'==Ff&M&SoNS.r<=6e!ozi;hur:<'A4Sa(%Bd/~hbQnS$AI<07cFHXYUBVeRt+0zIbgS1!s$xD&V,nbAJ
q8Is)-0_pc4]K6)CuaY.:T;M|9m,]XH[K+97XkZr!*]Q|JDRY5;IX6(CokFI,93NcW&B.7&g>%P?U'5sn.KV+eKTPuOJH$9jR8(y
,2gqd!<^Re2T?z5NxAW*JMWUX_-I]SNU%:T.-l3[~9Z0?9ALbmal/7UsTd!ZlUPE*,&9oznsDOMhggF>bF34I!BQ|Y>0&u=e<7<<
AonxYXo,w]ORdcJ49Z&fapfP!x2MROAyK$zzqmydyW7q-5tY^$I=VA8>0.g0z>+k)2A%/c.6bZyeLV_P)z&jjFZaB0;Lo)D.%S]M
-O6ocBr_[E^oGmp:6CtA5wyl&Vyf.5/*sXxr2WN3zXKwL-56I12fn:_WZX_RBE=Wp[L@3h~hnhF[bR-jAN/(<?DOTgCx+;Zz!)Ws
!kaDX!'DcAs$K0m+$~sLFfiT8W+.g,'3;_TbmWB0<1Si07/(3KaYtiZbp=SY&bG<Y$qd?y&o$Deo9=j4=:Xf!rL/rY1_,7o?|QiR
K)iBoFLj2c6?5z5lL=GfC<k:bld;7EMheE~b?]GpdxfZv=8=4<[Gu@K!Gqs7)b/diQ18*J!_HokxV@lig|W^6~9pCG;_Mek35q!m
z4TyJcGU<ky<_y11c%l9JXk&CnvN-/MxL&&(BvEdw=U'W'L8i8fk7MT0P8Ui),)WKqTcFUGkoQ])]i>1A&r_GWIC$6bs8v(![<d>
u-T2C^|k4am!I)!e<By.asHE=YS^P+;~.DjuDs3NxI>aFk!q$qV'PsE-CRi<6a=>^Hbfm+Wsy;Ouu0oFBk=HW[;'e|QEIu:vNmT$
wzl0501.mr8Vm33<8X6PJP&qo)~<~;).[^piN<?=9rmQ!4i(z?0i_.|lffM+MMGfvz*BH9q]_%?auEKCmJ0b_Sg$s33)dI<OkO,/
be-zjzs4~BxS=!VRh.'VNtd9<+&J^.o5TZ]*(uNC~h(@7Rq,wXqB2oqI(FmO.S]Z=mh6fJ^nEqX5o:l+7V%uf2mo08Hw>.D-j;un
^I()MFX(KqW+e2.?j3xA+3Iwio7b34EUga=c[^mVh2MT^:GK@m%IAz4Z;=B1J+?f3.]gHu^~CXLpDx].>mTiU=;w28Qd,bRfNyBe
<>47e@WAIhsb8P(c6$KQf'TBtuSGe5?h$ktX68GJ&,_:MG8$/A4;mng-51;i^1?M%Gapf+b]1DeerK)B87PeL-b[fI0S.5c%NxcM
|F.uAo+g6vK^31(:6tq>RzpZ&(Tdo&R0_<!MtL7yeOHGC?[(>P-cdJ4P!?HUIhqb+),FS|2UgGDSZ_0tSQ^Y=-dnb^80iv)*OS,R
*0sOS?a>u>7ckeAeSE8e1l_u$vCbjn4FPvlii[|O^?YP>rq!n,^,8sdC(+v8s^C-g9ytWjs:8?SeUpF4;QBGp-$PgC<,($p,'eUQ
7GF8~Al6wk@c?Nt[*D'<s/~Lck8Z3Ki/kJ>u/V-~giAYC;y5i:n:W$AGdd69=c1KXH<2gsVb[UGBFeLs(2i9mYrD*Ch]C1~>'Egn
j8&&D;c|g~,iE.ob=V3wnr~<S^;eT^U[hjh57>NGr2,NyX<f%bl9%6|Sxy(doQ@<8)DBl)^T?puTKI[IV(@slOZU4r%2*C^-3U*r
XC^YGOs&L;qR~$c]x[IG%/;ltkIcj9Vz1_|k|yclj;Zrm*:a]B>j,pY_M<rGLhFBd],xlg!d8n/?.PjWz)a_~r+>q[,DJ;ClPWt6
qbX^l;A='T'H<6fzmmP|&4!pFs;q0!*Gg16gMPWknUTD%'EGle]TbI8|C-5x%XPTPG?LCx6(?-114Ka8/+E&xi)-ki,~YSE43QeW
6In9x_]DC7,>p34M?%vS)=MzG,AAjYEdAuI?Fku8K!dTg+Z*zla)ZG,S(BRHJ8>7Sy[!S3vw(QCbdu:oG%|/PIwX|jQuX%Q+(G_O
LQMTB0)r6lYDZ,]mFi8@K4iMxu[q4n/1~B[.yp1$=rFU$X!*pai6I';O$>E2~ApO(V)R~eT&Ug$=Ts)zT<V$kNdGLSx__+i%zC~k
^a?Qv<H3;ru1lr@bw6P]qMpAgZQA$@!NhP&|D]@3H4WhB1jhD7xwS7Fboh'Bqp$~o-,?lac|=^5$]AZ+8LD.mMCt~CTX~+I]J5vh
E@42:ZQMb5D/CtGhWc7tQ]d^s6->il]T4tX[jzzv(rrZ|pcH@E/JO]_ps..gZ3V,?n!I;8)BnN~exDs6cEmI~~AQVHd.[1)g9bT;
/jaM|=/_v>95m@$>g=Wf29|*M9yXg$d/]hvD9)haThDJYxJb,oMguyEH/J8g[>Q3ZDKY*?:_?*Fp[bHgLj**=wN&)vSy8EnGxNeA
vUFUfXkS%@Yf0[pQw[.gF_di:l!xs:v90~D/-;vZVHkv7Co*q:7V@l~vAN@YQL->@0o>%ko=PB~NB,d~12%gOEm,8n4%%5Q^7RYF
o1->Doa_.R:NVSmtM@/w/Gs2Qd1Ng.[/(.Am<ogE:DCiA2O!>liq6tY]w)rQ;3B2)-stKX4rEG3Kemwxu1l7gy^oQQy--)/hu5^X
o,nda9P|HS)_g_B|%j2|0An^uDA)t4f]VMn@IF1>6>KdKyWmqRX>7_=Kw]l-6._^Bfg_R|0^'=_Szv+37p,K/nIMai0LR@09jJl7
nLfWs's%px*3vzOnnsE'SNZNPcj=LW$'MHj_xG+&HV$|J4wDDyu6,/'33puJ'+r?!p0^:~0BL7n</nj_$3a<6V_'QF^aY8MZ=k.1
S4R:>mA-?'k/?a&AeG'x+Ua?5V~HKYkbR0+'KvXq?BuO4>/drpO^e1lhTy+26[*0uQJT^W&[H(Evu!uE<iKC^hWDGr$K-]:9&<<V
yrFnqu)yUD0mO1ZtjwFi,!f@Qws'[fU4rR*!C34(4$1,MgJpFu&.^qlgd7P'p>W]X0iy47lIh%oY?>z>-'=hQZzoy[E$(~W*_|V9
=5ODF*W2,tz+OA+kT2'%KwQ>w5L@t.9_jjzt-<0Sl@6CS[Tgmu9O)%!|4sXC1CVKfRlg7M_^O|[nMsk:a3Ky:_8XURS,yWj,>8KX
hk1O*f@@n|o(xN]'AI()Uqk)ZYlD^V-Gj1(p6v2eP8sq<2zmm2'aWEt*F2=u$HuDJQ)5k@&MGkPUy4pqf3S/Ab2MJlcLscY5<XWg
YbcMU[?j=t0w><Y1ci:OBbq_Sv5;kVE|X4C]Zzgo!a;-.)[MA~<;WZx_H0h1vIqPI>fw'$%I'I-]So9-R5+m|7EM]gfH|PwQ%SHF
!)zK-JP9ls=!dtMZePAzC)A91:F-qwR_/>B)@j.W|3%nfRGYjae?SR~Sh>.H3:.:]o<.Nnk-p=4KP-A;-r+~A/4pL*VIZ%8n)jvZ
GG';E&8v!/:=H2++|S*@q^wA$CH>,DnIl$QA2Nyk@:YeFB_n;dHj%PaNVrp^)M:-hil=SegR38V,[QvPNo6jGB0|c[8$$0k@UK0X
+4%,YH[|,@o~kpu5c=ER7qdBdAZ1P%>^n&D%4Bf<xBCYbb|H>m9~!_38_SV5.D;NxZeOX6x.$wpJV31C96.to[xN/uMQLB)_hFpo
j9QJH0x?+9?gd_Tg_fSZ.K[>K/t[9]Xkt]n@^(l;a%[?(xcIhPOa7DDuiZWbQ552+tOjcrOti|HkBjn2B<rx@&@!f=-BXpdiK-7?
jHO=q_dCSqx*]-(,iD*rumg:CgveOL8g:NePW6j_Av4'?w|v)4mD+-LSyp>NLo]H?wRR*5:&D@quB5EjiBPA>R|vQCy5gEdZ3Gv>
)o2]Lo1LmO?F0gaOg/O[.[XY(l58,/[cxOe%@J-9D,GZ<.E1(Ux!@;rXq~E9HvOD~8y~<UAj3&v5xMF'/CkFfcDpES>foygC1FnX
CRTM75ZXkBI0k;|m;mmu.R9Ydzy/!oeVRXj^$:::u!M?tm77knQr7Eq9b<r]c3Od7@fWx1]'G>_]wzdq)iG8kaATA<&W!PKa,<Ym
s0)pp3n!LGJaHm_pB>3SLAm9(2Br<<<=.PlWY;Y:(Z>!tM[[7rCdJQ,t0y~kR+rGzx9'De7Vt|pF3Vahn.'vlVZeQnNr7>f+Y]+T
@ZUg-mP/y]Kzf)4~-FCx^^U)Pg~lEh_a&C6%w+dHETT/zOf(o4fQh2,aE5c$Iwi&)rfzhk9kM<bDYv92&&[$$|13~-bk+&COo;XY
Cy5z55UxT<qTM%Z|axOtQDq.U|=|8Hca1B10t,$2D&Gyo++r9y|NXkh=kvAHJY-Rtwl!)uo/A~f<d73q)@sFD|76m|,l$VYrV(I:
?~yH5vEg^kt;m/z[:yR.jqI4vM98Sv|R=E+$%lnNM?jmwa%J[F<C9=$^$8L16TiEd;+s2j(=rgBCUCEAtsP!wk'SKR-Y--];4gPu
D$a1(yq%-o60mMhXLcIyc$[FU$c<SZN06X/)H$j<[_C2V.&@9L)-xHn?fO.S%e>;_*$gr:N%@%i2u$cLXHbSF,(5a%P&KsgibeXz
0LEXUBsX0HqMcMZf4'-gXpF32-;FPMNRZaTHrD8rA[*GhgH]x$=Q:?23=Abu5]7EI+'[CoBK&cSYOQaCLv),F.LV]1UpB<<C=]g8
~KX4Rq[l@zO7yk%AfgB!BE/k)esrgZ*l%WWZ'T!@;pRvh?Bi^E2j^HQR!T!z)LYYxnmz0)cV&Ri?R^S!1arEbSXniHtZAI<k0jhC
[lDo(giG7v7]-s1@baVA51a~dqSh0>Atz^*<AEXaA0/^$7hfK8O>H$DYK|;IGiyZ5Bl:]HF/4uGh$z=C5<-[cJsboYh+oPR+JB~D
uS6J2EIv0?0U8:QX^>=w0'tCV~&(Bj)~ACI7:P8WtLY(U;vKnaE|Ru?e~_1]^<Ro9O7[BB544F1vc,3;a-Yrzfh0v*qG~9L,s*lH
*Ew2w|6%MjlrQP&LEg5c_S;xQCs=,@%YzX(l!]X1P>tksp38oe%~=zPq&oLB[Lh$JV6>dU6$1560W&=|18]CL9Um~HQ/S7811$-c
s2XWuBxwj5==~[UfXHHm(:]XS0++;p|*2PTr!Ex*i5qC2ZWV~pr,Ii?<'CNA&a)O@;%K+ux(0?.ALa&8j?ld&3y?XZ'ho8Cl:+8n
KXR(3X^;/f@|YZifiK2*<jZt;]-=vNsu*w8!rEwyH37!ue2W]PmdN:t$6ald=TZ5Pd=PxGK3O0'8<KR+rO>fea%H$cM(t.;sMzKq
*?H|.|x8ot!^haBbHCm5_j[.3@k?dmg$0.)_^)mQgGP%2W_Xu9V:I4=)X$LaZC3&8+RFoxBkc:'yR_p'Hl*5)M0+4g>|oWl;gWPz
Ur9vm!FrI>r*zD>iLJ[_iXFxH:L/A__o8Y:/vs01=|V=xuQR7ik_Fuu>~8ap9<8a+YgEZ3qg^opEoVd[6@*X:p]GR_'3d<B1r@&(
A[9@v3S<5_^*BNxmd[Na0+'9':|~9/cG=w6iEbTTIN)zI(<W7;_F@O<Z^moDiSVbH'<thDSS=/@VMCBEjoO&De'v-J^5Jk'>Ni%&
XHl&lM!1$AF@LP[0m9%uOF(-GSMs-Tg2pm^@i?LSCsiO6S@TxEAVabBz!*]7?w3.TFHW+~LjR[yqdMegs?p&M@7E41/Xw0(Kc?oE
f|ub0Ru[x//U5sAai<5mh)$Pxg$y[kj4_)+d?kQ:JLgY&zn@Ojr)mseG8b2.:a(v~mSjJ1uc|Eb*/bg>PD!oc)TDuiOx'LpoBq>:
zQr:=OJ0-5zwIX_w8=/~]JY;uaJt8E+G,|OD/r!WWE*t@I@&]10vf(]&3Nf)doVD,T?04yz!M.q'h!)*j'j-o0Y%@-hgInIRE:e^
TDs]Q|vf/m5:M=(H(&jptm8EDxYDwM4v>pombd:5m3gnCrCMXOrhurXGJ?1lTwV)ws?=.|/Q~GJT%8@-sd/DWq&&O-g~&QY'>4;K
L+ktt3o@]&(_fN6ojv4^:Z,|=JS32j|5cWf8%3U:1|k~I+'fwYH_^tRW6Jl,[0+4*!LXODPGy64Zh/]<4CHC],E=$sX.'54_ND<|
LynO=26L<;_7skS%>UsF*U8c>tzMzI!x!O8aLJj'oY+Zej2I^x|Y|xV&RqwMUHr5j~Xz.PtL;QKt8]j5g8Y'64J&%Z@4+tZ8>D1c
T5%B<+>m]&D@xW:9Z[3k_];BsA^gT:DB;x$2BV15IOaZIt,eTmMmp0p[@OkL~YJ)W.n1G^!56=Ed&-%=kH'UlV6/wz,l[t&2Z<~Q
I|7,yxcm)K;nDFF9R*BQs:$9-PCr$D6u6;-9%H5fXRzxvq0R/[*EK7IT(HH4:HTG_[y4&RuSJI$[Lqw1GN7vINBxw|K/i;Tbnp9j
x++<$dduVamFkGy'FuC)m:7|4AW$^lVx3SZ!/aI$|opwLgCnca+1H0[~zTt&;vhlx|CVmUQ+C$|<;N_BHtiOy:f]&K.]L,iWDN_)
x1tdP>c/X]C+IRk|PR@AXpSH>mX4XuW@:uJ91/?peV>;2Gi+hXvl]O1H^_59ihT]c5GWeoELCfQWL4bA+(a%j2p@T5/y%DXN=Ut6
o^tYKKS~T9UR]nNvpYduK|fmD^yR~rLFp;:V8*A^lm~0'p7.muCS$v6<~&C6p<G-;r=9]WnClvIHn]re+6!XWOqN1uYg4fnP7ZaF
TjmnRHCF/)dKmgbYk3Pmo4,k78Cy$En8eU3PSuWF,U2Xh&iey*i&xf;8Viv6/G:OBLemETbsI>5mLUH+G[+JKlHPSejG;2vn(p=H
|4<_Lw]rMRIYhf'WiXEGfnz?N=DW%|,[hxTq%c7nAuq+|rC/qrUzgC25oVmk9)jPi=6]b+^p3+lM(<Oc]c&,*_FW;2-Cuv1%c~HU
F'0_j4KmnS%Gtr|Xy_KhmLMZ^lku_JbS%/8,w^sI7pDUM(YZ')^4r~7dcYFpz6BX64uu+4Gk8>dXuQA6cQ1Q~GX~o:BI~q,3A?:a
a4Bt=t/R;[bAR1mUgttg4m(jC)@W2ZTlFq%X,&!PD+]-!jl.5kC-Wl7@KwTKL5Y<@9Z^k&~7zA+3DSU3@-&WTHpj_:LzcBT&;6O5
0'*T_~5'ubG,jFmhw77$lW!Vm81bNXv*W4=ozg4._UmJ,Za<V+[ox[1fQ9KzZJ-~x[X-yNk:hag&D]_GlMcASvM]=t*&LA5[NM-T
(3;h@=0EQ30EjFNx:_Fhbvb'Wk='];:3~5o*[Otc^nE=9&Emri9n4<I|int4A0jCh2%xiG~xQli4wc5qyf(5-vR8hosDH8Q,%L=~
g?AiJRicHGQ6>c[F^!y*EM.~19|iVu--OBIUnMKc3fFpO[0GD9=rG>D7m'9Q~7~&EOskbSkANnJ%L?a)?)l.JPQ5Kxho^oEi&/WL
iQsz>hRcEo1&A&cviB-9&]5*7%_Ky_(%XWt?9'Gzq]@q;^p&d3QIt0>N.]f&uWzN~@[CqH~W!3-_$gJtBeJ;0kwz;eZsNuCSg.zX
8/R]>B_rKSwUs@iPVZy'_KY2MRmJWy=2w8~LyX|]kHWv-OIDS!a:gKT]~]bxYVrcJ+Qk55A4=gW9+7'nS:)0~NTUrq>wf8-%fo*q
3tc:Dv,f>;Lj9FwELIE'G(_u|=]+>FD9sKEo|Hl@JJ~ehRj+1t1,9xqkHCy<vJ;)!amTuFY'f6-BTSv+1YKOa0m~*;fcxdtkepPj
86,KOuqOPUor~l3V~rd.1lfPr~56u+(XqWO?lGyAa8w!CKwncylFi(:yr:[?1[@oENY3f&iKvdHwdAYO4BF=X*xS:?l21?;im5;<
G5rd=P,^k.g_D22RVKYUhb^gqEv'PRi2HpVc7R(gn(=h%+CAGcrD>bs+LAJJ-^aif'66ClJ?Au)4d0D0FAI72NuzvTm.]e.7~'f3
yR~LK0Cf&ioC=IVml1TqR7%rg4@WQWSd4MJ8WM@W5[Ab:o4kSbv=wL!ZF!u=Ap2beC]VYgk>f2h^+mF5^uLiFZ6)cp[sClY01Or|
go1(~'u@)nD|S317X=@??4Ia>t&7H<:?DV8*nZunuxBRAqoLP%q^$~-Y*:FVkk)ol~t[/;3m^Ar,pZ9xVSP@7gsX!9ZBF5T$+_Xj
;nW@AYH6T3sPyekv(D($d04bF=VTEs]sfG_&F!ThBElEmd>0v3izm~s~]Vq/Eh@)k&DkOlfcJ4i+]BZ3W'rx0&tPqMPU^<^8B8t,
Ah(<9-(hGOjtx,kPUsvoZJx.+';dXgHv2i6z1l5.HMn)PVYSh>%3@Y_H$F$t*oT4^ec6-kw&l,)Wyj:MZlUG;!g!oA;GIU(LkLw~
LL<x@R)mYE=DJ.fw-NZT2a9X2A-DN2?[45dA[!G1N[4+?^Ayd-7W,Jcjsn>cqQ!B*af+Tu0CyxaHdtcL81.3]IdnTSS8Rj_1[sJy
yjQq]oEfS]=]Tq[~8[*BCl*aI;;i-hq8U'EQ@5PZ+FW7<Z^:Cb;3J(5HIwF*?G4['%3@?(oE[5P^NOf)Y8Ls@QJAu=_qT0xq3CEl
%27t'NF4>mv0Y!h/iUQ(ygbnDjyZYNN^2s5OeNS-aU5ha?/ao4OKs6qX)dC;RZHT>UxHT;M)/[-lzcdFNS7>v|'n]g<&E|p2)Z62
|@u]y/=2j=IJ_wcz&cQ!eLjrqPpaRi3.xk5>_T-^=I,:T1o$1[vlc1CF@(Yw|H02OqFdV=/Qa1:RC/5QBd_D$)2oQjO_9JkY+3:*
PPjt|R?~.R)_!+tOn5BJt@,Zyh+caUDQcT+H3XVI4fCX~xX55GT0JSb^'D(tv&)5&e8Gv?[9u&tHI!Hj*<XBB~n[)>iLaIQ[(i@'
yJVoSa]jUOrG[$BOuta2(^4%cHsAqN1.pVy<4$tqwS[>'bFqq'pXrs71;:=/s(p|D)@n!+treQUW%C=kVm)8f.hQ/Q(dd!jj[?f%
XoI8f;HWSY0TT99EQ+o:d<~|7v>~mt]BX4U;.@:n.)*p@e<d1e+J?&kL!:+]:'u~c6eM%ijy59'YWW0_8TbZ9bdbua!PXFrZflbv
dT7~I['[J=Rb:s'aG@w1x,[gr!LIyLi$@n[48<G&|2q2+nO_AvRd@C[q]+m(r*ZIo<E?m'_46Sjo9LOnCM,,;_t[l|4?$K^D?p-)
!)^Y[i'PC&.26MfhR<0y,na;zL+@f+mbz>cS[0;/KZQd77rU/I9~EtGZ%lbOWUw5i7iol$Z;@_ZH%%MTX^1a+qM+umwZ856xLO9!
fa<CSd:c&vlo+7.3RFIqk6jN7(n@rZ+d0b)WPT'O+!Jte,a;lI3^fa0Rs0%VhY-b:3v~l^mejv2U~Vp]:1cmH+6(@K(Y7hW9(XU1
E-/-Hjpb@@pBGX-3XAYvA|SY-z2a!bCU-h1CetbNlR|NfeCPIfr'%%dGBOq|%qyD,$?y7*89cl]IkOcvSG/=TO4|x;.j=.ySv9K&
|rJUEX_Q*T/Epyg:^Zh%7nTKcCTa.^Q8@hf$S8-.g+/HBR/xa2Z!Z@84r66P?p(|iE6mI[gbyO01q25Yg/G=1s!>Q=^V3E:Sn38A
(@OdE>+)eT4K<>_I4n@!.gjqcEuD0kJW29]rMf['D)N:eCvoO4+tqLE;Wj^nAYnybBPY;p55]sj:l8AWCc2D720XeFr&+kI$xVO-
14t6sUpmwSL+Fj?fTa+BJC5/Wp?W=[yDo*J6UV6)MQ~3$I1>]R*w)UAsp/F'tr[=ILxOe_FLA*i?=1-'+,ZH5c|6&iA:zA:$Xqs~
rH|X2-bR9g+^Wwa6yR+U3=fXu.%bV'[DhtQ0ar'.''Fav+,ZSHSbw3;&2k~!E0Cif/Pr|df5Ha~S?^o;q|CZ[/ny<s6x!R@_]7<0
V-J[5BCpTC-af/tj|?ib0>*d@NgVZN4n.O*?S+)oQ_hL^<ruBnp?m8W%=[LM9%|F+<[3Mcg7(N0go^R3f^NZ.WrL1W^*B%rH38=6
4!~zI>]8.DLLbbxY@4^F!c%Z9i!Cl@r1'jLiiE'9+G.GwisMTST_,%4c~uEHlym''86JUpW2MWSZoH4](sp45tj-KQ:G%OBhqsGV
LQ&|]RHK^UQPg@!L'1%0_~Z>,nxds'c-|1FP8gA1fe'(kPvxP6SAWijXa2SR3Q+h^owV,x$GX[x6;@K<.0?6o*YK4-NKL&]hm@dl
GoWu$bCX&c5KiPc~-wvJ,?-l1[~egZ1gf0p?tq>AWl(@+d/CQoSvIcQn,3lTBmdltT7RF;E5l_=!7-P/6_i=4a?~x,n'r/+4=+%&
S=vS*Hc1ve5>|Lz(Xi]U=WgJs;q8s5sI,Xbi^0P=nMbO3SiUr8[2&gwLd=0+e:$12ub/7U;nBg8oyZz2kT.1n&8*7q%^=91NA-C+
wn0u-,>/&BCMx*~!4QMy(q1dbY5Kp'L[W,VeH3YN)Zj:o3iaZ:sQ4^n;.;f]JF:<L!sjT5f9QaNWn*Migor6fyC~bj;0BQ83HE|%
;t^>N[5O,/p?d7YRDK?,Wfh8S+Hb!2CeD7twZK_J1cG[3I|[oVDvQs1a>>up2,^sq0nT=^o0/r%S(1y:P1;(Fj&=9|<T$v>UZy%g
r6jJ2g4RJ_<^9w4*8HUr7]3+U2Yp/W^!UQ6i5mXy4![V?Gv1fw5M?uv7<hpaoNB.jSZRmB:X0YZIvQnF>c~voQ^99D*M_Zt%/cr9
L28puK*TLgW'qdHle+a_F'(b7ps<)9;rvCut|4S@UIQAfrHU|TEM'=7cwBS$M!v4+3i;r]@:3eg@Lm4?wTYXA7l[B,z1F+Aojnm[
X4IF@kjBEWouNN&X9f9CJ-ZK;r[i,_w-Y|O[E9CTp|aYj.H(@kB=U0OFSwJ@Ma,5I?omBntSG_1E&$DridcPmIBh<@KL$0'+)]!z
)slp9$v/pc%jaeF>G5eUG;%hYNA8XrRMW[LlTe7u>9<Y?'yxmQ(u$yoW|o:j(^^,0d^Ymsdx4w~z^mbBmSmXguQmo&PoW^jOS|!b
OMv,22Md9TKdn*5o;ig2sA0t3'EZQqaRSp!bQpen)Q1Rx,1,s7<ZAbco*rR;t'RE]^'pVNt^|a^'ZE[W*HW3V/(@Yxp&*aJhc~I2
~VU=)Dn2dF>Y:~ay-Kg_ya>T)$9fF=?-~eM::DT0g'0dw8Z>.-N-G:OmMrP7whw~vg'|rH@_vXCWPtYzMix5q<is^E57Pjng2FZf
Q/w_xvc+Of:<QS9AO;W1H+lpJYf?@l6>&mt|yB'>',*]a%0ZI~~m-olwpXXpfIjzSJ3j$-!Y992j2S^|2yCZy>XJ~IH0=Ep8iD8)
S7fSKzn)8AG4U(cLageZ@Fl$D|~K|42;$:h&YLp)'rAaGjFo+eCH[,Q8Fz.a_m8B<]j>Bwmow)JN)laK'ZV9@,Qz$g1h~K8GYx4k
aV4.0t&A>bqizeD*[m._2uL<t[d1N4eP=G!]sZC:k|q1Q:@jcanaO6wrXM7LY>9:WsK$j>_u+.i]wSCBN6/3uwtC3RMS,Zd%wa9)
%a7srt]XSyvLy,'y~ewp'BxzGg>C>YBtelRnU9CCWAcxa0d51ErKHsWQYH;n]zYmARUBK&(c$L@'596A:M?:Avo2qQvVtc~dxS^F
tj]g?'/C]flHt_p'~kGCBARNC$YfC*J<]r1<=T@=ORk0A<DT?_Yp5zEn,[@+X++W|DfIDfFzyD4tDfh^jtG,qutE0LW:GYWOJqV9
Z.H2c!VQ3DO_/cf]e&jg]Rl@;0<.)UcZm@7;32lf(L3|1>UA2t.r81v=i=sNg377LK~;+)!fR]2+<rxnyGMc%i>uku:(w-CKSHlD
tzqCV&r.ZZMwgBM?;Q9Ah<jK!wOfW^aC!gtz>3?hCm&Wsw$oU8%'27J7l:t~8|yHqdv2EJ9)qL?9_a<a<JsvP?1rC6q'VZmaNJDH
OpYJ+5Ql&jN'HRk)-g3+S[xoO[o|cF<Sc1@,lvrykJD:^'Id_wSq@P.d*bP143hYC>S)Fys9.ijtsz~~^]1JGL!ub.r'y/8HHHu_
<-]1bk|>lqm6_+qFSe09njetaJ%Ab3yr=!w<u<w!,9b*bvOM.yY~L@beP7/PvN)5F|zW&5G+x6B?0U1n[w6Bc%N9BrXE(hhI=2L=
sC-BYCH:-,t/&S5FC]K'(-mhK/'r[S:=VHiwFAB<f)b!o[&oeMc8Om4|nDjm't4Se54:jAR6v*=JUbpFD64TlH|M[5q~0csvRD:b
WPMjZ.?k$@UO5RB-[cfa^B6h=O@-PWgRet,!<)xngA*g=<[Gr@xb'njhHN%0I1Kf_58UW9loC8t69a/w7K'6~TkB<>nAR'zS@m1h
@W!4=m[lWZvUZ(FLIvTT$3;ix/ESB[Pa<%udz1e<D*z~>,hafe$7:88ce!Siq|tap%Izc]a.o.H4;AIumG_b^o9&*<+'Z10pdagS
]=lj?|[DmG3'P)CwJ6sa4Z9iL1PYD:DXCiUM7/0NVBo;*tXX4Abz_H<di[H9-q<FN3u/?D~0RRi$VZ/+W<?z<!zDLQM1_Ya(*Its
vB1Z_U~lZ!-Ga>,8%-/1Jd<mb[z0a@<_VPJDTB%5@t!<0B<Q/?(.xtLc!!,tck<52w2BAH2g](Nbz8Iz)tOPxHrdZT'BH(PhE2zb
)Lav'jIx&+tjM[qmU~s+(P;ZjepI[Z;%Xp38hIz4qCsr1!>MBvBY!,md>>~''TUDl+WF)<kyj)W|c6grdL~)RtMi+);1&V_g^GH!
]j+iYn]k*wIc[8<eYVwZ&<'&;CZa+sHHD[H,Eh+A-'84i~rAmDtlqqi?nKOFb)pg$/14~5EuS7>u_$.JHPhUO5+d/cxvf+~stx4E
u>_()9$MNWr(vt's6)uvdCdcE)CzvJ%KO(Hi)Uw+O_]dmViFXPhC~P?NMf]t.yX~iNsQ=wy*<]5=ct:s!_[Jr[*w?-;MRnq+YH8u
xx/|G'A2@p2%:S6LdqB.<'%nqemr9&?gy0/h-Ze(~40@9eL3Y~kBuzo]=J*tA%8y2;vA9Et,H_)!8JcIKn,je>Uiyo^nU*'+<O9g
:W)+Vr>b8a7z=0Wz&bySU1mBo*GX?rW~4Uz9%2]:tz9E=YKjsYd5Ei!!^~Z]JDMPI3w])rOQ()MizR5liiK4bm=5q/zJ/pn^;t!T
f0!=&mdMf1Bc>CwS0$Kh:cVVAvpBj9<@l_qX=~+osvD&pbgF)4X(eh!$b61N2>vfDfj@]o];DHGdBr!=0<ZDAU-7CVp^L3X2JumS
ZVoqt(goaCw/l(a+K*yR+~K-Hd*ZJS|6d(]Mpb8HbVP(|TVr|n?)ZD,ER1*QfO5ITqn:]Uf:Jn7Hr*5ms=V:yOws?X+Voo&I)PIS
eLDyZ5u795|R74gYg?')fk>tSrnA.@>*z.]:)F~22ndI%Vjfa5oZv6Lt(o!p]OIlkFx|^M*etG_N@4_rfvK=5:.~5yDDyY_I!'.y
]RD~Tg:uX3>+Am6w2=?CXs4ERVIcW*LoNg8*mY,t:5KyxT'&r8)Kem~L$v-3(yt2p!8SO/U@d6Z;2B).b]7q]iQ[W^2cf-q3^:*r
-ig]:t=0b@5:8.3[@7;3(%.8p8u*ly9B!mx2XL*Pj/V;aY$~K/-.Pm>9cY]%~i_eXylB6,x[g0/kfl$5DTgi<|SmHCr5~+9Ma&!3
6$,[b(m=;'H&7A%5I&zV~ooz:KUP|RSm)Fd3)9=dLhdz]TsLRs+3m[9hZ4$.!*bT7dCr-%:AQKmz4K1L>;_DY2BZrewz8)Y5j0+g
=jZTM;!ooKwUUg6&j0up~NVNl6$p+)'qOf8=e;*BeF5PW/eqf66,vnvm%jgCTag@IrCX]Xepeo[wu~@KQ!)8UkC>4W+>@N!zhqE(
xxEcmlh>'iETAy_7y)!v4D0VsI=/x_!oYv31Vz]6&:BuhFtq14@!G?JCA'q~eYBue]]_Z<@8D&dQh7,8HX[2%SAQhi1^pqf<a92U
!H:x2A027AQqAnDw,~rwo1Z+XwzJ.BtQUTFQ[SD4!awL2Q~]7Z@)NJp$t5(;n%t[rB|k*=IDE&Nuh0AuEEO4~s4M=a=vY$YB&~*;
S92_q'W&~f|MqKmLVa&(_86l-A%/2=dD3?7dNO7(udBrC~8-bp6+L)T/Qd~Km=P)g;J4X[k[WIT[+.)5R;)r*;*4.w3'ci$U!7dO
e)*tYNkQLrTXi(baVOM:EvZt!iP.d0K^$Ty0u7RQU>EF2YSu,W;k0OMpb~y-J:z'8qfOvJxgeVno&u9<[@O.q$j(Vrz'Cu]t4Jne
9[K$z,uVvIv@JNt2SU53QIi~A|=dMIs-M%!vML0b@cqVfIFB~Kg;|17!bGaV4_buK2/d^Lb*Wg:vh$bSnIz%+eOzC-BnVUbRBg+W
<D.HUA$55V;aD[Jhv|h>_9;8k:hsZlt2uX;B$39[G+KT~l.sDEP%XQ;d4/L0pI=X,w|0BbDc$.28:zn3w2v_sZ_Ix;G+0jZ:q62T
zF%E)?zb<F:ZKm~rrxJ;[%rGoI.l>0j6Ku(<G)O^6LN3?SAY@hgZ0!~!72KJ[adiL*%]%:b<KBoUs0qg5M1I^H>BKT67B]ou9wcP
.m*xxnBrGuFN(HG!GaR=jpA$lB/k0,n+3[&5TTT&E,3&alP[1A=A(Wxlh^s69C5&|>[cG|Gq)0wOUZ!iu_=cj6h_uZ<Lqn8_84Iv
CGa)BNrddA+l%Tnl,g5CZYOK<:-TH[3&FCUeA5,CKXCsAStm?]$kX^t|<hIt%ek,k'4~$LAkQBpHN[WfL|f*)JvM.I>V>H_v%y-!
Q(1ct(Lv6oPBHt,:T$R1vO?(2PLh.1+[/Kr@C0-n_&,n%YVY7G~V'+vAWifjM97PaVGH+GdZU&^2RluX&F!^rOh8rP$d~2^SYs|r
~JK>d7q;X'ir:fRX,A|&b,Mx[//:GHrzJ~7^y1RBptq2HffMB'mvUI5-~ItFA7X)sMiGk0?)F~pqZpyEifq/(GkUo;GD0EpWv'P@
q**smr+;EsX/^>TE_SL>Z&G>.DUp1-X]r]B_Olge-=)c|_;i&J[$a$lI%Me.l_sG*bI;aK>_&akoI?XdLK3spr=S9whu$'h^OyEN
(s70IO3^F6rF08kjb<dzdBq=LpV9anLLVmhzOf>v&yk@o2kb[d0%EygYp&!r'.AZf5Qyw=Z4~D'ye.!*~wC:DI3xJEIPY,v|WPfU
^RmXd?LI<Nz%q+$u)fdTOD]kdhC/3=0f7nPKq1|cW.-@wz^s8/13mxMAgZ~^Z+J'Ox1wp^Pk'EmUEkMS+&+X&[,fao!Bq.gF>VVa
_~>!w&62s=F8e73l[0]iDOj1M%I'/u04PiYlx)<phLQu&N$@4-w8>/MO*A=]vOESV6o--VTGC!Y)GSVx~Wi=DPJTDfdSds3/Py>>
acH)1H<%SS,xTztN;=|qxq;u@aSrpU*j:/jt8EV?.[C6%b=fytCsb)RI+K7u!hdM,]^|ISek2<o3BJq9)R7/1:yfIHtcH%4|;=g4
*A>WyQjna$@[*OF>14k,G9>h<+;~J,usfkW8(/3d'E_(WW*^~4pz_s:Vt;rPD5QIPj|_$ba@8fMhcET.wEp5%WDUd__aG@f%VPhn
0I8+8>?AQwB:PpW(K/2R$$dh=bpbXi<+2uVdrdXBR;E=nx2VIn'rj24/dLERc,p4BK@KbFGM)kN2S8gEmQ=m&qI%~ve(uBUjtAM]
y<32gVi$PiR:|O^Dn6v,_OOu%oz%Qj6Im3p,3M.V,f8~;KtiR(>M2//V_8Gw,/Tucx~^UlEWu2IFr|I[gwHXIC|iR2(pfod5.31G
2|UVc$6'av'v.|UMmuAcT/PHzooK)It;ZgRV&N2QYnE@;|n&gHJN3sDG:44cEO;cyJ6[vbjvoB,pC)kqG4-D%')oOT4Nv1/2cGnm
i@%;n>Qm8LKy1/kAaA3Mm:j+BeF'tHZTmfP88+=^kf|YRe;u?$u5)E$v_UF|YU@9j&%~MYxr'=ATBaQ3)tR]W-9(pSCE4D%fa;Oy
xE^.CcLfWHEEznUyYqd[6SZ.okq2L)1aMWWv/YntO%JodlIIU]w7tOvBfp26%M|,HN<m_0@AW<:5xmIP@;25bp*9/EJ(60DH?TL!
G[WaIb(xbm4(WJiLLhAj5O45hWx!$$ORAx@/&Dyq=%0ZG=;ika:w+Lq>-,~<^V]OT^OCgp_wLL/PApq_(68O9'k'];e:Z>y)Sb60
-+7:Y2:+m88GozTfiaBuxFfG..~f8Xc-Tj8]|E1O*82$H<FRdV$GCu5v[5w&*M[T02O^n&>%HgFRyUwK~66XFpoOPv8NSgyk/CeT
xl[;?+gHy,.NlT7w)^o7h),Hn@wjov5f-lDfDe]G5<'I;B7AZy'8a+>dAGc:Y(TN]yidQ;)i0@h2?jA5Qrmed9G[RB>]T%aakEOp
2*3+!uyL1-|F~]ONq~x|^22ZAPY+sI@q9oY$THuo>1pVx^DC^c8~KE>+%p5.HMTQ1g.2R0*7R(a):e_^?81F(y-2om(Hw0aNo@b<
sLc35Jb9OxJ6;[kXDu9LK3?f:H,cqG_t,ozz-ED+oMobA,!IGgX]%~_sE$&1JUvimq3/7+t,=8@z90A@kQ)Q6grT=1OJ>jM,3EfE
2*73V^^$cE(z%dG4iV1~J8]!$|4>vSG:2AeR%AoL%|ogPgMRdcs?Ye,6yq.tao?^S,J53^TT-qD!X;XOB~|Tf93Z/w19i]E5?RP-
]:Z5@1kYExf|(D+n]*F-7KdzGUg@TlJqFM2=tk:bS%6T3StBw^Vy0RI?c7?s/a=$[P~M|,D585,7^4R+I%?,OJ!@X4HL>(tbGL;T
zZ]?YLdY6e)D6B@l2YN.J:d&3v%[,$WMhtniMAm!P'HhIM*!YhPcaWEv04_^K)ReA32&QRGO(SVSH8lVrX<N3XED?$d?-GsCD2^z
3'4P]up2z[3T,wB'_!%esS&edQSCyFJmS8.93Tl[T8?EemAvx+ce9/obm/h;Fvx|+vRYt=ziu3G*o^[1]~ro|,~Q</xV_EwW~=?@
KU4@$~hQh<RRah>p'e)sR@tP^r9;TB[MRes~k9XQ3Rd1c$24G.4]bIyOZ(A1Ex%~sPoZNE6<diUG0yq^<Dl)xeMo;4g68A>4<<f+
vw3?QXVsJb:O4smsv.(_=>%6>DUp9en,B9$2~WJgfC1wK+HBv:wg^C<,|sxEUxUL-1sLX/e7UX_|"

/-- The scripts: the device library, the start of a package, a script with nothing but a
description, and the starter programs in the order of their names. They are unpacked when one of
them is first read. -/
def scripts : Thunk (List String) := .mk fun _ => (Text.Packed.unpack packedScripts).splitOn "\x0c"

end RobotKit.Resource
